import StateGuard.Runtime.CorrelationHeaders

/-!
# Request headers

`ManagedRuntimeSession.request` drops the headers of its caller that have StateGuard's names, in
whatever case, and adds its own.  The wrapper in the worker takes those two, once each, so that
nothing a caller passes is taken for them (`request_correlated`).

Between the two are the client and the server of HTTP, which may add headers and write names in
another case.
-/

namespace StateGuard

namespace Asgi

abbrev Text := List Char

/-! ## The parent's headers -/

/-- `_stable_id`, where `digest` is `hexdigest` of SHA-256. -/
def stableId (digest : Text → Text) (lead : String) (components : List Text) : Text :=
  lead.toList ++ '_' :: (digest ([Char.ofNat 31].intercalate components)).take 32

/-- `runtime_request_id`.  An ordinal is never negative. -/
def runtimeRequestId (digest : Text → Text) (sessionId : RuntimeSessionId) (ordinal : Nat) :
    Text :=
  stableId digest "sgreq" [sessionId.toList, (toString ordinal).toList]

def ManagedAcknowledgementFailureMode.value : ManagedAcknowledgementFailureMode → String
  | .forceNon2xxAfterSuccess => "FORCE_NON_2XX_AFTER_SUCCESS"

/-- The arguments of `request` that its headers are made of. -/
structure RequestArguments where
  headers : List (Text × Text) := []
  acknowledgementFailure : Option ManagedAcknowledgementFailureMode := none
  acknowledgementNodeId : Option GraphNodeId := none

/-- `headers[name] = value`. -/
def setHeader (headers : List (Text × Text)) (name value : Text) : List (Text × Text) :=
  if name ∈ headers.map (·.1) then
    headers.map fun header => if header.1 = name then (name, value) else header
  else headers ++ [(name, value)]

/-- The names that a caller cannot set. -/
def ownNames : List Text :=
  ["x-stateguard-request-id".toList, "x-stateguard-acknowledgement-failure".toList]

/-- The headers of `request`. -/
def safeHeaders (casefold : Text → Text) (arguments : RequestArguments) (requestId : Text) :
    Except String (List (Text × Text)) :=
  let headers := arguments.headers.filter fun header => casefold header.1 ∉ ownNames
  let headers := setHeader headers "x-stateguard-request-id".toList requestId
  match arguments.acknowledgementFailure, arguments.acknowledgementNodeId with
  | none, none => .ok headers
  | some mode, some nodeId => .ok (setHeader headers
      "x-stateguard-acknowledgement-failure".toList
      (mode.value.toList ++ ':' :: nodeId.toList))
  | _, _ => .error "acknowledgement failure mode requires one exact node"

/-! ## The way to the worker -/

/-- `str.encode("ascii")`, if it does not raise. -/
def encodeAscii (text : Text) : Option Bytes :=
  if text.all (·.toNat < 128) then some (text.map fun c => c.toNat.toUInt8) else none

/-- The headers as they are sent, if nothing raises. -/
def encodeHeaders (headers : List (Text × Text)) : Option (List Header) :=
  headers.mapM fun header => do
    let name ← encodeAscii header.1
    let value ← encodeAscii header.2
    pure (name, value)

def IsAscii (text : Text) : Prop := ∀ c ∈ text, c.toNat < 128

instance (text : Text) : Decidable (IsAscii text) := List.decidableBAll _ _

/-- `str.casefold` on a text of ASCII. -/
def asciiFold (text : Text) : Text := text.map Char.toLower

/-- What is relied on of the language, of hashing, and of the client and the server of HTTP. -/
structure Carries (casefold digest : Text → Text) (deliver : List Header → List Header) : Prop where
  ascii : ∀ text : Text, IsAscii text → casefold text = asciiFold text
  long : ∀ text, (digest text).length = 64
  hexadecimal : ∀ text, ∀ c ∈ digest text, c ∈ "0123456789abcdef".toList
  /-- StateGuard's headers arrive, with their values.  The case of a name is not kept. -/
  delivered : ∀ headers,
    ((deliver headers).filter fun header => IsStateGuard header).map
        (fun header => (lower header.1, header.2)) =
      (headers.filter fun header => IsStateGuard header).map
        fun header => (lower header.1, header.2)

/-! ## Names -/

theorem encodeAscii_eq_some {text : Text} {bytes : Bytes} :
    encodeAscii text = some bytes ↔
      IsAscii text ∧ text.map (fun c => c.toNat.toUInt8) = bytes := by
  rw [encodeAscii]
  split
  next ascii => simpa [IsAscii] using fun _ => ascii
  next other =>
    refine iff_of_false nofun fun encoded => other ?_
    simpa [IsAscii] using encoded.1

/-- On ASCII, `bytes.lower` is `str.casefold`. -/
theorem lower_map {text : Text} (ascii : IsAscii text) :
    lower (text.map fun c => c.toNat.toUInt8) =
      (asciiFold text).map fun c => c.toNat.toUInt8 := by
  rw [lower, asciiFold, List.map_map, List.map_map]
  refine List.map_congr_left fun c listed => ?_
  have byte : ∀ n : Fin 128, (if 65 ≤ (n : Nat).toUInt8 ∧ (n : Nat).toUInt8 ≤ 90 then
      (n : Nat).toUInt8 + 32 else (n : Nat).toUInt8) = (Char.ofNat n).toLower.toNat.toUInt8 := by
    decide +kernel
  have same := byte ⟨c.toNat, ascii c listed⟩
  rw [Char.ofNat_toNat] at same
  exact same

theorem decode_map {text : Text} (ascii : IsAscii text) :
    decodeAscii (text.map fun c => c.toNat.toUInt8) = some text := by
  have byte : ∀ n : Fin 128, (n : Nat).toUInt8 < 128 ∧ (n : Nat).toUInt8.toNat = n := by
    decide +kernel
  rw [decodeAscii, if_pos]
  · rw [List.map_map]
    refine congrArg some ((List.map_congr_left fun c listed => ?_).trans (List.map_id text))
    show Char.ofNat c.toNat.toUInt8.toNat = id c
    rw [(byte ⟨c.toNat, ascii c listed⟩).2, Char.ofNat_toNat, id]
  · rw [List.all_map, List.all_eq_true]
    intro c listed
    exact decide_eq_true (byte ⟨c.toNat, ascii c listed⟩).1

theorem ascii_asciiFold {text : Text} (ascii : IsAscii text) :
    IsAscii (asciiFold text) := by
  have small : ∀ n : Fin 128, (Char.ofNat n).toLower.toNat < 128 := by decide +kernel
  intro c listed
  obtain ⟨before, isBefore, rfl⟩ := List.mem_map.mp listed
  have lowered := small ⟨before.toNat, ascii before isBefore⟩
  rw [Char.ofNat_toNat] at lowered
  exact lowered

theorem ownNames_ascii : ∀ name ∈ ownNames, IsAscii name ∧ asciiFold name = name := by
  decide +kernel

/-- A header of ASCII has a name of StateGuard's exactly when a caller cannot set it. -/
theorem isStateGuard_iff {name : Text} {value : Bytes} (ascii : IsAscii name) :
    IsStateGuard (name.map (fun c => c.toNat.toUInt8), value) ↔ asciiFold name ∈ ownNames := by
  have own : ∀ other ∈ ownNames, lower (name.map fun c => c.toNat.toUInt8) =
      other.map (fun c => c.toNat.toUInt8) ↔ asciiFold name = other := by
    intro other isOther
    rw [lower_map ascii]
    refine ⟨fun same => ?_, congrArg _⟩
    have decoded := congrArg decodeAscii same
    rw [decode_map (ascii_asciiFold ascii), decode_map (ownNames_ascii other isOther).1]
      at decoded
    exact Option.some_inj.mp decoded
  have request := own "x-stateguard-request-id".toList (by decide)
  have failure := own "x-stateguard-acknowledgement-failure".toList (by decide)
  show (_ = correlationHeader ∨ _ = ackFailureHeader) ↔ _
  rw [ownNames, List.mem_cons, List.mem_singleton, ← request, ← failure]
  rfl

/-! ## What is sent -/

theorem setHeader_of_not_mem {headers : List (Text × Text)} {name : Text} (value : Text)
    (free : name ∉ headers.map (·.1)) : setHeader headers name value = headers ++ [(name, value)] :=
  if_neg free

/-- The headers that the parent adds. -/
def ownHeaders (requestId : Text)
    (failure : Option (ManagedAcknowledgementFailureMode × GraphNodeId)) : List (Text × Text) :=
  ("x-stateguard-request-id".toList, requestId) ::
    (failure.map fun failure => ("x-stateguard-acknowledgement-failure".toList,
      failure.1.value.toList ++ ':' :: failure.2.toList)).toList

/-- The failure that is asked for. -/
def RequestArguments.failure (arguments : RequestArguments) :
    Option (ManagedAcknowledgementFailureMode × GraphNodeId) :=
  arguments.acknowledgementFailure.bind fun mode =>
    arguments.acknowledgementNodeId.map fun nodeId => (mode, nodeId)

section Sending

variable {casefold digest : Text → Text} {deliver : List Header → List Header}

/-- No header of the caller's has a name of StateGuard's, so both are appended. -/
theorem safeHeaders_eq (carries : Carries casefold digest deliver) {arguments : RequestArguments}
    {requestId : Text} {headers : List (Text × Text)}
    (built : safeHeaders casefold arguments requestId = .ok headers) :
    headers = arguments.headers.filter (fun header => casefold header.1 ∉ ownNames) ++
      ownHeaders requestId arguments.failure := by
  have free : ∀ name ∈ ownNames, name ∉
      (arguments.headers.filter fun header => casefold header.1 ∉ ownNames).map (·.1) := by
    intro name isName listed
    obtain ⟨header, kept, rfl⟩ := List.mem_map.mp listed
    have foreign := of_decide_eq_true (List.mem_filter.mp kept).2
    obtain ⟨ascii, same⟩ := ownNames_ascii _ isName
    rw [carries.ascii _ ascii, same] at foreign
    exact foreign isName
  have request := setHeader_of_not_mem requestId
    (free "x-stateguard-request-id".toList (by decide))
  rw [safeHeaders.eq_def] at built
  dsimp only at built
  rw [request] at built
  split at built
  next noMode noNode =>
    cases built
    rw [RequestArguments.failure, noMode]
    rfl
  next mode nodeId isMode isNode =>
    cases built
    rw [RequestArguments.failure, isMode, isNode]
    refine (setHeader_of_not_mem _ ?_).trans (List.append_assoc _ _ _)
    rw [List.map_append, List.mem_append, not_or]
    refine ⟨free _ (by decide), fun listed => absurd (List.mem_singleton.mp listed) ?_⟩
    show "x-stateguard-acknowledgement-failure".toList ≠ "x-stateguard-request-id".toList
    decide
  next => cases built

theorem encodeHeaders_append {headers others : List (Text × Text)} {sent : List Header}
    (encoded : encodeHeaders (headers ++ others) = some sent) :
    ∃ first last, encodeHeaders headers = some first ∧ encodeHeaders others = some last ∧
      sent = first ++ last := by
  rw [encodeHeaders, List.mapM_append] at encoded
  obtain ⟨first, isFirst, encoded⟩ := Option.bind_eq_some_iff.mp encoded
  obtain ⟨last, isLast, whole⟩ := Option.bind_eq_some_iff.mp encoded
  exact ⟨first, last, isFirst, isLast, (Option.some_inj.mp whole).symm⟩

theorem encodeHeaders_cons {header : Text × Text} {rest : List (Text × Text)} {sent : List Header}
    (encoded : encodeHeaders (header :: rest) = some sent) :
    IsAscii header.1 ∧ IsAscii header.2 ∧
      ∃ others, encodeHeaders rest = some others ∧
        sent = (header.1.map (fun c => c.toNat.toUInt8), header.2.map fun c => c.toNat.toUInt8) ::
          others := by
  rw [encodeHeaders, List.mapM_cons] at encoded
  obtain ⟨first, isFirst, encoded⟩ := Option.bind_eq_some_iff.mp encoded
  obtain ⟨others, isOthers, whole⟩ := Option.bind_eq_some_iff.mp encoded
  obtain ⟨name, isName, isFirst⟩ := Option.bind_eq_some_iff.mp isFirst
  obtain ⟨value, isValue, isFirst⟩ := Option.bind_eq_some_iff.mp isFirst
  obtain ⟨nameAscii, rfl⟩ := encodeAscii_eq_some.mp isName
  obtain ⟨valueAscii, rfl⟩ := encodeAscii_eq_some.mp isValue
  cases isFirst
  exact ⟨nameAscii, valueAscii, others, isOthers, (Option.some_inj.mp whole).symm⟩

/-- What the caller may set is not StateGuard's. -/
theorem filter_encodeHeaders (carries : Carries casefold digest deliver)
    {headers : List (Text × Text)} (foreign : ∀ header ∈ headers, casefold header.1 ∉ ownNames)
    {sent : List Header} (encoded : encodeHeaders headers = some sent) :
    sent.filter (fun header => IsStateGuard header) = [] := by
  induction headers generalizing sent with
  | nil =>
    cases encoded
    rfl
  | cons header rest ih =>
    obtain ⟨ascii, -, others, isOthers, rfl⟩ := encodeHeaders_cons encoded
    obtain ⟨first, later⟩ := List.forall_mem_cons.mp foreign
    rw [carries.ascii _ ascii] at first
    rw [List.filter_cons_of_neg, ih later isOthers]
    rw [decide_eq_true_eq, isStateGuard_iff ascii]
    exact first

/-- What is sent under StateGuard's names is what the parent has added. -/
theorem sent_own (carries : Carries casefold digest deliver) {arguments : RequestArguments}
    {requestId : Text} {headers : List (Text × Text)}
    (built : safeHeaders casefold arguments requestId = .ok headers) {sent : List Header}
    (encoded : encodeHeaders headers = some sent) :
    encodeHeaders (ownHeaders requestId arguments.failure) =
      some (sent.filter fun header => IsStateGuard header) := by
  rw [safeHeaders_eq carries built] at encoded
  obtain ⟨first, last, isFirst, isLast, rfl⟩ := encodeHeaders_append encoded
  have foreign := filter_encodeHeaders carries
    (fun header kept => of_decide_eq_true (List.mem_filter.mp kept).2) isFirst
  rw [List.filter_append, foreign, List.nil_append, isLast, List.filter_eq_self.mpr]
  intro header listed
  rw [decide_eq_true_eq]
  have isRequest : lower correlationHeader = correlationHeader := by decide
  have isFailure : lower ackFailureHeader = ackFailureHeader := by decide
  rw [ownHeaders] at isLast
  obtain ⟨-, -, others, isOthers, rfl⟩ := encodeHeaders_cons isLast
  rcases List.mem_cons.mp listed with rfl | listed
  · exact .inl isRequest
  · cases failure : arguments.failure with
    | none =>
      rw [failure] at isOthers
      cases isOthers
      cases listed
    | some mode =>
      rw [failure] at isOthers
      obtain ⟨-, -, rest, isRest, rfl⟩ := encodeHeaders_cons isOthers
      cases isRest
      rcases List.mem_cons.mp listed with rfl | listed
      · exact .inr isFailure
      · cases listed

end Sending

/-! ## What the worker makes of it -/

section Receiving

variable {found other : Correlation} {headers : List Header}

/-- The loop finds what it finds under StateGuard's names. -/
theorem foldl_consume_filter (headers : List Header)
    (requestId : found.requestId = other.requestId)
    (failure : found.acknowledgementFailure = other.acknowledgementFailure) :
    (headers.foldl Correlation.consume found).requestId =
        ((headers.filter fun header => IsStateGuard header).foldl Correlation.consume
          other).requestId ∧
      (headers.foldl Correlation.consume found).acknowledgementFailure =
        ((headers.filter fun header => IsStateGuard header).foldl Correlation.consume
          other).acknowledgementFailure := by
  induction headers generalizing found other with
  | nil => exact ⟨requestId, failure⟩
  | cons header rest ih =>
    by_cases ours : IsStateGuard header
    · rw [List.filter_cons_of_pos (by simpa using ours), List.foldl_cons, List.foldl_cons]
      refine ih ?_ ?_
      · rw [Correlation.consume, Correlation.consume, requestId, failure]
        split_ifs <;> rfl
      · rw [Correlation.consume, Correlation.consume, requestId, failure]
        split_ifs <;> rfl
    · have untaken : ¬ Taken found header :=
        fun taken => ours (taken.imp And.left And.left)
      rw [List.filter_cons_of_neg (by simpa using ours), List.foldl_cons,
        consume_of_not_taken untaken]
      exact ih requestId failure

/-- Where each name of StateGuard's comes once at most, its headers are taken and the others are
forwarded. -/
theorem correlate_eq (once : ((headers.filter fun header => IsStateGuard header).map
      fun header => lower header.1).Nodup) :
    correlate { type := "http", headers } =
      ({ type := "http", headers := headers.filter fun header => ¬ IsStateGuard header },
        ((headers.filter fun header => IsStateGuard header).foldl Correlation.consume {}).requestId,
        ((headers.filter fun header => IsStateGuard header).foldl Correlation.consume
          {}).acknowledgementFailure) := by
  have last : ValidLast headers := by
    have apart := List.pairwise_map.mp once
    rw [List.pairwise_filter] at apart
    refine apart.imp fun {first later} apart both => ?_
    have named : IsStateGuard first := both.1.isStateGuard
    have alsoNamed : IsStateGuard later := by
      rw [IsStateGuard, both.2]
      exact named
    exact apart (decide_eq_true named) (decide_eq_true alsoNamed) both.2.symm
  have kept := (kept_iff {} headers).mpr
    ⟨(fun isFound => by cases isFound), (fun isFound => by cases isFound), last⟩
  obtain ⟨requestId, failure⟩ := @foldl_consume_filter {} {} headers rfl rfl
  rw [correlate, if_neg (not_not.mpr rfl)]
  dsimp only
  rw [kept, requestId, failure]
  rfl

theorem consume_request {header : Header} {requestId : Text} {id : RuntimeRequestId}
    (name : lower header.1 = correlationHeader)
    (value : header.2 = requestId.map fun c => c.toNat.toUInt8)
    (ascii : IsAscii requestId) (reads : readIdentifier "sgreq_" requestId = some id)
    (unfound : found.requestId = none) :
    found.consume header = { found with requestId := some id } := by
  rw [consume_correlation name unfound, value, readRequestId, decode_map ascii, Option.bind_some,
    reads]

theorem splitColon_mode (mode : ManagedAcknowledgementFailureMode) (rest : Text) :
    splitColon (mode.value.toList ++ ':' :: rest) = some (mode.value.toList, rest) := by
  cases mode
  rfl

theorem readMode_value (mode : ManagedAcknowledgementFailureMode) :
    readMode mode.value.toList = some mode := by
  cases mode
  rfl

theorem consume_failure {header : Header} {mode : ManagedAcknowledgementFailureMode}
    {nodeId : GraphNodeId} (name : lower header.1 = ackFailureHeader)
    (value : header.2 =
      (mode.value.toList ++ ':' :: nodeId.toList).map fun c => c.toNat.toUInt8)
    (ascii : IsAscii (mode.value.toList ++ ':' :: nodeId.toList))
    (reads : readIdentifier "sgnode_" nodeId.toList = some nodeId)
    (unfound : found.acknowledgementFailure = none) :
    found.consume header = { found with acknowledgementFailure := some (mode, nodeId) } := by
  rw [consume_ackFailure name unfound, value, readAcknowledgementFailure, decode_map ascii]
  show { found with acknowledgementFailure := (splitColon _).bind _ } = _
  rw [splitColon_mode]
  show { found with acknowledgementFailure := (readMode _).bind _ } = _
  rw [readMode_value]
  show { found with acknowledgementFailure := (readIdentifier _ _).bind _ } = _
  rw [reads]
  rfl

end Receiving

/-! ## The round trip -/

section RoundTrip

variable {casefold digest : Text → Text} {deliver : List Header → List Header}

/-- The ids of requests are of their pattern. -/
theorem readIdentifier_runtimeRequestId (carries : Carries casefold digest deliver)
    (sessionId : RuntimeSessionId) (ordinal : Nat) :
    readIdentifier "sgreq_" (runtimeRequestId digest sessionId ordinal) =
      some (String.ofList (runtimeRequestId digest sessionId ordinal)) := by
  set digits := digest ([Char.ofNat 31].intercalate [sessionId.toList, (toString ordinal).toList])
    with isDigits
  have whole : runtimeRequestId digest sessionId ordinal =
      "sgreq_".toList ++ digits.take 32 := rfl
  rw [readIdentifier, whole]
  rw [List.drop_left, List.take_left, if_pos]
  refine ⟨rfl, ?_, ?_⟩
  · rw [List.length_take, isDigits, carries.long]
    rfl
  · rw [List.all_eq_true]
    intro c listed
    simpa using carries.hexadecimal _ c (List.mem_of_mem_take listed)

/-- Whatever headers a caller passes, and in whatever case, the worker correlates its request with
the id that the parent has made for it and with the failure that was asked for, and forwards every
header that is not StateGuard's and no other. -/
theorem request_correlated (carries : Carries casefold digest deliver)
    {arguments : RequestArguments}
    (node : ∀ nodeId ∈ arguments.acknowledgementNodeId,
      readIdentifier "sgnode_" nodeId.toList = some nodeId)
    {sessionId : RuntimeSessionId} {ordinal : Nat} {headers : List (Text × Text)}
    (built : safeHeaders casefold arguments (runtimeRequestId digest sessionId ordinal) =
      .ok headers)
    {sent : List Header} (encoded : encodeHeaders headers = some sent) :
    correlate { type := "http", headers := deliver sent } =
      ({ type := "http", headers := (deliver sent).filter fun header => ¬ IsStateGuard header },
        some (String.ofList (runtimeRequestId digest sessionId ordinal)), arguments.failure) := by
  have own := sent_own carries built encoded
  have delivered := carries.delivered sent
  have reads := readIdentifier_runtimeRequestId carries sessionId ordinal
  rw [ownHeaders] at own
  obtain ⟨-, ascii, others, isOthers, isOwn⟩ := encodeHeaders_cons own
  rw [isOwn, List.map_cons] at delivered
  obtain ⟨request, rest, isArrived, isRequest, isRest⟩ := List.map_eq_cons_iff.mp delivered
  obtain ⟨requestName, requestValue⟩ := Prod.ext_iff.mp isRequest
  have requested : Correlation.consume {} request = _ :=
    consume_request requestName requestValue ascii reads rfl
  cases failure : arguments.failure with
  | none =>
    rw [failure] at isOthers
    cases isOthers
    obtain rfl := List.map_eq_nil_iff.mp isRest
    rw [correlate_eq (by simp [isArrived]), isArrived, List.foldl_cons, requested]
    rfl
  | some asked =>
    rw [failure] at isOthers
    obtain ⟨-, failureAscii, last, isLast, rfl⟩ := encodeHeaders_cons isOthers
    cases isLast
    obtain ⟨injection, none, rfl, isInjection, isNone⟩ := List.map_eq_cons_iff.mp isRest
    obtain rfl := List.map_eq_nil_iff.mp isNone
    obtain ⟨failureName, failureValue⟩ := Prod.ext_iff.mp isInjection
    obtain ⟨mode, nodeId⟩ := asked
    have isNode : arguments.acknowledgementNodeId = some nodeId := by
      obtain ⟨mode', -, isMode⟩ := Option.bind_eq_some_iff.mp failure
      obtain ⟨nodeId', isNode, same⟩ := Option.map_eq_some_iff.mp isMode
      cases same
      exact isNode
    have once : ((List.filter (fun header => IsStateGuard header) (deliver sent)).map
        fun header => lower header.1).Nodup := by
      have request : lower request.1 = correlationHeader := requestName
      have injected : lower injection.1 = ackFailureHeader := failureName
      rw [isArrived, List.map_cons, List.map_cons, List.map_nil, request, injected]
      simpa using correlationHeader_ne
    have injected : Correlation.consume { requestId := some (String.ofList
        (runtimeRequestId digest sessionId ordinal)) } injection = _ :=
      consume_failure failureName failureValue failureAscii (node nodeId isNode) rfl
    rw [correlate_eq once, isArrived, List.foldl_cons, requested, List.foldl_cons, injected]
    rfl

end RoundTrip

/-- A client that names its host, and keeps the case of a name. -/
theorem carries_host : Carries asciiFold (fun _ => List.replicate 64 '0')
    (fun headers => (bytes "host", bytes "127.0.0.1") :: headers) where
  ascii _ _ := rfl
  long _ := rfl
  hexadecimal _ c listed := by
    rw [List.eq_of_mem_replicate listed]
    decide
  delivered headers := by
    have foreign : ¬ IsStateGuard (bytes "host", bytes "127.0.0.1") := by decide
    rw [List.filter_cons_of_neg (by simpa using foreign)]

/-- A caller that passes an id of its own. -/
def sampleArguments : RequestArguments where
  headers :=
    [("X-StateGuard-Request-Id".toList, "sgreq_ffffffffffffffffffffffffffffffff".toList),
      ("content-type".toList, "application/json".toList)]
  acknowledgementFailure := some .forceNon2xxAfterSuccess
  acknowledgementNodeId := some "sgnode_00000000000000000000000000000003"

theorem request_correlated_sample : ∃ headers sent,
    safeHeaders asciiFold sampleArguments (runtimeRequestId (fun _ => List.replicate 64 '0')
      "sgrun_00000000000000000000000000000001" 0) = .ok headers ∧
    encodeHeaders headers = some sent ∧
    correlate { type := "http", headers := (bytes "host", bytes "127.0.0.1") :: sent } =
      ({ type := "http", headers := [(bytes "host", bytes "127.0.0.1"),
          (bytes "content-type", bytes "application/json")] },
        some "sgreq_00000000000000000000000000000000",
        some (.forceNon2xxAfterSuccess, "sgnode_00000000000000000000000000000003")) := by
  refine ⟨_, _, rfl, rfl, ?_⟩
  refine (@request_correlated _ _ _ carries_host sampleArguments ?_ _ _ _ rfl _ rfl).trans ?_
  · intro nodeId isNode
    cases isNode
    decide +kernel
  · decide +kernel

end Asgi

end StateGuard
