import StateGuard.Contracts.CanonicalJson
import StateGuard.Library.RecordLog
import StateGuard.Remediation.SymbolRegions
import StateGuard.Runtime.CorrelationHeaders
import StateGuard.Runtime.Contracts

/-!
# Observations on lines

The worker writes an event as the JSON of its fields, in the order of their declaration, on a line
of its own; the parent splits the file into lines and validates each.  How pydantic reads a line is
a parameter (`EventReader`).

The identifiers of an event have no character that needs an escape or ends a line, so the JSON of an
event is one line, and its only closing brace is its last character (`Identified.unclosed`).  Events
are told apart by their JSON (`modelDumpJson_injective`).
-/

namespace StateGuard

open Python TextLines

/-! ## Identifiers -/

/-- A text of the pattern of an identifier. -/
def IsIdentifier (lead text : String) : Prop :=
  Asgi.readIdentifier lead text.toList = some text

instance (lead text : String) : Decidable (IsIdentifier lead text) :=
  inferInstanceAs (Decidable (_ = _))

namespace RuntimeObservationEvent

/-- The identifiers of an event with the leads of their patterns. -/
def identifiers (event : RuntimeObservationEvent) : List (String × String) :=
  [("sgrun_", event.sessionId), ("sgreq_", event.requestId), ("sgnode_", event.ingressNodeId),
    ("sgroute_", event.routeRegistrationId)] ++
  event.normalControlId.toList.map (("sgcontrol_", ·)) ++
  event.customerValueNodeId.toList.map (("sgnode_", ·)) ++
  event.customerValueSymbolId.toList.map (("sgsym_", ·)) ++
  event.mutationNodeId.toList.map (("sgnode_", ·)) ++
  event.acknowledgementNodeId.toList.map (("sgnode_", ·))

/-- Every identifier of an event is of its pattern. -/
def Identified (event : RuntimeObservationEvent) : Prop :=
  ∀ entry ∈ event.identifiers, IsIdentifier entry.1 entry.2

instance (event : RuntimeObservationEvent) : Decidable event.Identified :=
  inferInstanceAs (Decidable (∀ _ ∈ _, _))

end RuntimeObservationEvent

/-! ## The JSON of an event -/

def RuntimeObservationKind.value : RuntimeObservationKind → String
  | .requestDispatched => "REQUEST_DISPATCHED"
  | .requestReceived => "REQUEST_RECEIVED"
  | .customerValueEntered => "CUSTOMER_VALUE_ENTERED"
  | .customerValueReturnedNormally => "CUSTOMER_VALUE_RETURNED_NORMALLY"
  | .customerValueExceptionEscaped => "CUSTOMER_VALUE_EXCEPTION_ESCAPED"
  | .merchantAssignmentInstructionReached => "MERCHANT_ASSIGNMENT_INSTRUCTION_REACHED"
  | .merchantAssignmentInstructionCompletedNormally =>
    "MERCHANT_ASSIGNMENT_INSTRUCTION_COMPLETED_NORMALLY"
  | .merchantAssignmentInstructionRaised => "MERCHANT_ASSIGNMENT_INSTRUCTION_RAISED"
  | .responseStarted => "RESPONSE_STARTED"
  | .acknowledgementFailureInjected => "ACKNOWLEDGEMENT_FAILURE_INJECTED"
  | .responseCompleted => "RESPONSE_COMPLETED"
  | .responseReceived => "RESPONSE_RECEIVED"
  | .requestAborted => "REQUEST_ABORTED"

theorem RuntimeObservationKind.value_injective : Function.Injective value := by
  intro kind other same
  revert same
  cases kind <;> cases other <;> decide

/-- An optional text, or `null`. -/
def optionalText (text : Option String) : Json := text.elim .null .ofString

/-- An optional number, or `null`. -/
def optionalNumber (number : Option Nat) : Json := number.elim .null fun n => .int n

namespace RuntimeObservationEvent

/-- The fields of an event, in the order of their declaration. -/
def fields (event : RuntimeObservationEvent) : List (String × Json) :=
  [("session_id", .ofString event.sessionId), ("request_id", .ofString event.requestId),
    ("sequence", .int event.sequence), ("kind", .ofString event.kind.value),
    ("ingress_node_id", .ofString event.ingressNodeId),
    ("route_registration_id", .ofString event.routeRegistrationId),
    ("normal_control_id", optionalText event.normalControlId),
    ("customer_value_node_id", optionalText event.customerValueNodeId),
    ("customer_value_symbol_id", optionalText event.customerValueSymbolId),
    ("mutation_node_id", optionalText event.mutationNodeId),
    ("acknowledgement_node_id", optionalText event.acknowledgementNodeId),
    ("status_code", optionalNumber event.statusCode),
    ("original_status_code", optionalNumber event.originalStatusCode)]

/-- `model_dump_json`.  An event has no floats, so no numerals are used. -/
def modelDumpJson (numerals : Numerals) (event : RuntimeObservationEvent) : Str :=
  0x7B :: (joinCommas (event.fields.map fun field =>
    Json.entryText numerals (Str.ofString field.1, field.2)) ++ [0x7D])

end RuntimeObservationEvent

/-- What `model_validate_json` reads of a line. -/
structure EventReader where
  numerals : Numerals
  modelValidateJson : Str → Option RuntimeObservationEvent

/-- The observations of a session, one on each line. -/
def EventReader.format (reader : EventReader) :
    RecordLog.Format CodePoint RuntimeObservationEvent where
  terminators := Remediation.splitlines
  write := RuntimeObservationEvent.modelDumpJson reader.numerals
  read := reader.modelValidateJson
  newline := 0x0A
  ends_newline := rfl
  returns_newline := rfl

/-- A valid event is read from its JSON, and nothing is read from an object that is not closed. -/
structure EventReader.Reads (reader : EventReader) : Prop where
  dumped : ∀ event, event.validateTarget = .ok () → event.Identified →
    reader.modelValidateJson (event.modelDumpJson reader.numerals) = some event
  unclosed : ∀ text, 0x7D ∉ text → reader.modelValidateJson text = none

/-! ## One line -/

/-- A character that ends no line and closes no object. -/
def Inner (c : CodePoint) : Prop := 0x20 ≤ c.val ∧ c.val < 0x7D

theorem Inner.unended {c : CodePoint} (inner : Inner c) :
    Remediation.splitlines.ends c = false := by
  obtain ⟨low, high⟩ := inner
  simp only [Remediation.splitlines, List.mem_cons, List.not_mem_nil, or_false,
    decide_eq_false_iff_not]
  omega

/-- A text of characters that need no escape, end no line and close no object. -/
def Plain (text : String) : Prop :=
  ∀ c ∈ text.toList, 0x20 ≤ c.toNat ∧ c.toNat < 0x7D ∧ c ≠ '"' ∧ c ≠ '\\'

instance (text : String) : Decidable (Plain text) := List.decidableBAll _ _

theorem escapeCodePoint_of_plain {c : Char} (low : 0x20 ≤ c.toNat) (unquoted : c ≠ '"')
    (unescaped : c ≠ '\\') : escapeCodePoint (.ofChar c) = [.ofChar c] := by
  have value : (CodePoint.ofChar c).val = c.toNat := rfl
  have notQuote : c.toNat ≠ 0x22 := fun same => unquoted (Char.toNat_inj.mp same)
  have notEscape : c.toNat ≠ 0x5C := fun same => unescaped (Char.toNat_inj.mp same)
  rw [escapeCodePoint, value, if_neg notQuote, if_neg notEscape]
  repeat rw [if_neg (by omega)]

/-- A plain text is quoted as it is. -/
theorem Plain.inner {text : String} (plain : Plain text) :
    ∀ c ∈ quoteStr (Str.ofString text), Inner c := by
  have quote : ∀ c ∈ Str.ofString "\"", Inner c := by
    simp [Str.ofString, Inner, CodePoint.ofChar]
  intro c listed
  rw [quoteStr, List.mem_append, List.mem_append, List.mem_flatMap] at listed
  rcases listed with (opens | ⟨point, isPoint, escaped⟩) | closes
  · exact quote c opens
  · obtain ⟨char, isChar, rfl⟩ := List.mem_map.mp isPoint
    obtain ⟨low, high, unquoted, unescaped⟩ := plain char isChar
    rw [escapeCodePoint_of_plain low unquoted unescaped, List.mem_singleton] at escaped
    subst escaped
    exact ⟨low, high⟩
  · exact quote c closes

theorem plain_hexadecimal : Plain "0123456789abcdef" := by decide

theorem IsIdentifier.plain {lead text : String} (identifier : IsIdentifier lead text)
    (plain : Plain lead) : Plain text := by
  rw [IsIdentifier, Asgi.readIdentifier] at identifier
  split at identifier
  next shape =>
    obtain ⟨leads, -, digits⟩ := shape
    intro c listed
    rw [← List.take_append_drop lead.toList.length text.toList, leads, List.mem_append] at listed
    rcases listed with inLead | isDigit
    · exact plain c inLead
    · have digit := List.all_eq_true.mp digits c isDigit
      exact plain_hexadecimal c (List.contains_iff_mem.mp digit)
  next => cases identifier

/-- The names of the fields. -/
def fieldNames : List String :=
  ["session_id", "request_id", "sequence", "kind", "ingress_node_id", "route_registration_id",
    "normal_control_id", "customer_value_node_id", "customer_value_symbol_id", "mutation_node_id",
    "acknowledgement_node_id", "status_code", "original_status_code"]

theorem plain_fieldNames : ∀ name ∈ fieldNames, Plain name := by decide

theorem plain_kind (kind : RuntimeObservationKind) : Plain kind.value := by
  cases kind <;> decide

theorem plain_leads : ∀ lead ∈ ["sgrun_", "sgreq_", "sgnode_", "sgroute_", "sgcontrol_", "sgsym_"],
    Plain lead := by decide

section

variable {numerals : Numerals} {event : RuntimeObservationEvent}

theorem inner_ofString {text : String} (plain : Plain text) :
    ∀ c ∈ (Json.ofString text).text numerals, Inner c := plain.inner

theorem inner_optionalText {text : Option String} (plain : ∀ value ∈ text, Plain value) :
    ∀ c ∈ (optionalText text).text numerals, Inner c := by
  cases text with
  | none => simp [optionalText, Json.text, Str.ofString, Inner, CodePoint.ofChar]
  | some value => exact inner_ofString (plain value rfl)

theorem inner_number (n : Nat) : ∀ c ∈ (Json.int n).text numerals, Inner c := by
  intro c listed
  obtain ⟨low, high⟩ := Json.mem_ofString_nat listed
  have low : 0x30 ≤ c.val := low
  have high : c.val ≤ 0x39 := high
  exact ⟨by omega, by omega⟩

theorem inner_optionalNumber (number : Option Nat) :
    ∀ c ∈ (optionalNumber number).text numerals, Inner c := by
  cases number with
  | none => simp [optionalNumber, Json.text, Str.ofString, Inner, CodePoint.ofChar]
  | some n => exact inner_number n

/-- Between texts there are commas. -/
theorem mem_joinCommas {texts : List Str} {c : CodePoint} (listed : c ∈ joinCommas texts) :
    c = 0x2C ∨ ∃ text ∈ texts, c ∈ text := by
  cases texts with
  | nil => cases listed
  | cons first rest =>
    rw [joinCommas_cons, List.mem_append, List.mem_flatMap] at listed
    rcases listed with inFirst | ⟨text, isText, inText⟩
    · exact .inr ⟨first, List.mem_cons_self, inFirst⟩
    · rcases List.mem_cons.mp inText with rfl | inText
      · exact .inl rfl
      · exact .inr ⟨text, List.mem_cons_of_mem _ isText, inText⟩

theorem names_fields (event : RuntimeObservationEvent) :
    event.fields.map Prod.fst = fieldNames := rfl

namespace RuntimeObservationEvent

theorem Identified.plain (identified : event.Identified) :
    ∀ entry ∈ event.identifiers, Plain entry.2 := by
  intro entry listed
  refine (identified entry listed).plain (plain_leads entry.1 ?_)
  simp only [identifiers, List.mem_append, List.mem_cons, List.not_mem_nil, or_false,
    List.mem_map] at listed
  rcases listed with ((((((rfl | rfl | rfl | rfl) | ⟨_, -, rfl⟩) | ⟨_, -, rfl⟩) | ⟨_, -, rfl⟩) |
    ⟨_, -, rfl⟩) | ⟨_, -, rfl⟩) <;> simp

theorem Identified.inner_value (identified : event.Identified) :
    ∀ value ∈ event.fields.map Prod.snd, ∀ c ∈ value.text numerals, Inner c := by
  have plain := identified.plain
  simp only [identifiers, List.forall_mem_append, List.forall_mem_cons, List.forall_mem_map,
    Option.mem_toList] at plain
  obtain ⟨⟨⟨⟨⟨⟨session, request, ingress, route, -⟩, control⟩, value⟩, symbol⟩, mutation⟩,
    acknowledgement⟩ := plain
  simp only [fields, List.map_cons, List.map_nil, List.forall_mem_cons]
  exact ⟨inner_ofString session, inner_ofString request, inner_number _,
    inner_ofString (plain_kind _), inner_ofString ingress, inner_ofString route,
    inner_optionalText control, inner_optionalText value, inner_optionalText symbol,
    inner_optionalText mutation, inner_optionalText acknowledgement, inner_optionalNumber _,
    inner_optionalNumber _, nofun⟩

/-- The JSON of an event without its closing brace. -/
def openJson (numerals : Numerals) (event : RuntimeObservationEvent) : Str :=
  0x7B :: joinCommas (event.fields.map fun field =>
    Json.entryText numerals (Str.ofString field.1, field.2))

theorem modelDumpJson_eq : event.modelDumpJson numerals = event.openJson numerals ++ [0x7D] := rfl

theorem Identified.inner_openJson (identified : event.Identified) :
    ∀ c ∈ event.openJson numerals, Inner c := by
  have entries : ∀ text ∈ event.fields.map fun field =>
      Json.entryText numerals (Str.ofString field.1, field.2), ∀ c ∈ text, Inner c := by
    intro text listed
    obtain ⟨field, isField, rfl⟩ := List.mem_map.mp listed
    have name := plain_fieldNames field.1 (names_fields event ▸ List.mem_map_of_mem isField)
    have value : ∀ c ∈ field.2.text numerals, Inner c :=
      identified.inner_value field.2 (List.mem_map_of_mem isField)
    intro c inText
    rw [Json.entryText, List.mem_append, List.mem_append] at inText
    rcases inText with (inName | colon) | inValue
    · exact name.inner c inName
    · rw [show c = 0x3A from List.mem_singleton.mp colon]
      exact ⟨by decide, by decide⟩
    · exact value c inValue
  intro c listed
  rcases List.mem_cons.mp listed with rfl | listed
  · exact ⟨by decide, by decide⟩
  · rcases mem_joinCommas listed with rfl | ⟨text, isText, inText⟩
    · exact ⟨by decide, by decide⟩
    · exact entries text isText c inText

/-- The JSON of an event that lacks its end has no closing brace. -/
theorem Identified.unclosed (identified : event.Identified) {part : Str}
    (within : part <+: event.modelDumpJson numerals)
    (short : part ≠ event.modelDumpJson numerals) : 0x7D ∉ part := by
  intro closes
  rw [modelDumpJson_eq] at within short
  have opened := (List.prefix_concat_iff.mp within).resolve_left short
  exact absurd (identified.inner_openJson 0x7D (opened.subset closes)).2 (by decide)

end RuntimeObservationEvent

end

/-! ## Told apart -/

section

variable {numerals : Numerals}

open Json

theorem dumps_optionalText : Dumps optionalText := Dumps.ofString.optional nofun

theorem dumps_optionalNumber : Dumps optionalNumber := Dumps.ofNat.optional nofun

namespace RuntimeObservationEvent

theorem fields_told : Fields (fun event : RuntimeObservationEvent => event.fields.map Prod.snd)
    fun a b => a.sessionId = b.sessionId ∧ a.requestId = b.requestId ∧ a.sequence = b.sequence ∧
      a.kind = b.kind ∧ a.ingressNodeId = b.ingressNodeId ∧
      a.routeRegistrationId = b.routeRegistrationId ∧ a.normalControlId = b.normalControlId ∧
      a.customerValueNodeId = b.customerValueNodeId ∧
      a.customerValueSymbolId = b.customerValueSymbolId ∧ a.mutationNodeId = b.mutationNodeId ∧
      a.acknowledgementNodeId = b.acknowledgementNodeId ∧ a.statusCode = b.statusCode ∧
      a.originalStatusCode = b.originalStatusCode ∧ True :=
  Dumps.ofString.field sessionId <| Dumps.ofString.field requestId <|
    Dumps.ofNat.field sequence <|
    (Dumps.ofValue RuntimeObservationKind.value_injective).field kind <|
    Dumps.ofString.field ingressNodeId <| Dumps.ofString.field routeRegistrationId <|
    dumps_optionalText.field normalControlId <|
    dumps_optionalText.field customerValueNodeId <|
    dumps_optionalText.field customerValueSymbolId <|
    dumps_optionalText.field mutationNodeId <|
    dumps_optionalText.field acknowledgementNodeId <|
    dumps_optionalNumber.field statusCode <|
    dumps_optionalNumber.field originalStatusCode Fields.nil

theorem modelDumpJson_injective : Function.Injective (modelDumpJson numerals) := by
  intro event other same
  have floatless : ∀ event : RuntimeObservationEvent, ∀ field ∈ event.fields,
      field.2.floatless = true :=
    fun event field isField => fields_told.floatless event _ (List.mem_map_of_mem isField)
  have quoted : ∀ field ∈ event.fields ++ other.fields, ∀ x y : Str,
      entryText numerals (Str.ofString field.1, field.2) ++ x ≠ 0x7D :: y := by
    intro field _ x y written
    exact absurd (List.cons.inj written).1 (by decide)
  have told : ∀ a ∈ event.fields, ∀ b ∈ other.fields,
      Told (fun field : String × Json => entryText numerals (Str.ofString field.1, field.2))
        (fun field => (field.1, field.2.sorted)) a b := by
    intro a isField b isOther x y stopsX stopsY written
    simp only [entryText, List.append_assoc] at written
    obtain ⟨names, values⟩ := quoteStr_append_inj written
    obtain ⟨value, ends⟩ := Json.told a.2 (floatless event a isField) (floatless other b isOther)
      stopsX stopsY (List.append_cancel_left values)
    exact ⟨Prod.ext (Str.ofString_injective names) value, ends⟩
  obtain ⟨read, -⟩ := joinCommas_told (.inr rfl) quoted told (List.cons.inj same).2
  have values : (event.fields.map Prod.snd).map sorted =
      (other.fields.map Prod.snd).map sorted := by
    have second := congrArg (List.map Prod.snd) read
    rw [List.map_map, List.map_map] at second ⊢
    exact second
  obtain ⟨session, request, sequence, kind, ingress, route, control, value, symbol, mutation,
    acknowledgement, status, original, -⟩ := fields_told.told values
  cases event
  cases other
  congr

end RuntimeObservationEvent

end

/-! ## The format -/

/-- A valid event is read back from its line, and from no part of it. -/
theorem EventReader.Reads.faithful {reader : EventReader} (reads : reader.Reads)
    {event : RuntimeObservationEvent} (valid : event.validateTarget = .ok ())
    (identified : event.Identified) : reader.format.Faithful event where
  read_write := reads.dumped event valid identified
  plain c listed := by
    change c ∈ event.modelDumpJson reader.numerals at listed
    rw [RuntimeObservationEvent.modelDumpJson_eq, List.mem_append] at listed
    rcases listed with inner | closes
    · exact (identified.inner_openJson c inner).unended
    · rw [List.mem_singleton.mp closes]
      rfl
  nonempty := List.cons_ne_nil _ _
  torn part within short := reads.unclosed part (identified.unclosed within short)

/-- The reader of what is written, and of nothing else. -/
noncomputable def exactReader (numerals : Numerals) : EventReader where
  numerals
  modelValidateJson text := open Classical in
    if written : ∃ event, RuntimeObservationEvent.modelDumpJson numerals event = text then
      some written.choose
    else none

theorem exactReader_reads (numerals : Numerals) : (exactReader numerals).Reads where
  dumped event _ _ := by
    have written : ∃ other, RuntimeObservationEvent.modelDumpJson numerals other =
        event.modelDumpJson numerals := ⟨event, rfl⟩
    refine (dif_pos written).trans (congrArg some ?_)
    exact RuntimeObservationEvent.modelDumpJson_injective written.choose_spec
  unclosed text unclosed := by
    refine dif_neg ?_
    rintro ⟨event, rfl⟩
    exact unclosed (by rw [RuntimeObservationEvent.modelDumpJson_eq]; simp)

end StateGuard
