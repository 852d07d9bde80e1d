import OrgFederation.Account.Answer
import OrgFederation.Proofs.Json.Arrays

namespace OrgFederation

variable {α : Type}

namespace FailureBody

open Json (Node Items Entries Document nodesOf)

/-- A text tells itself, and a null tells nothing. -/
inductive Tells : Node → Option String → Prop
  | null : Tells .null none
  | text (text : String) : Tells (.string (.ok text)) (some text)

/-- No node tells nothing, and more than one is too much. -/
inductive TellsOnce : List Node → Option String → Prop
  | absent : TellsOnce [] none
  | present {node : Node} {told : Option String} (tells : Tells node told) : TellsOnce [node] told

/-- The documents that tell a code and a detail of a failure: an object with any further members, or
an array of no more than the two. -/
inductive Told : Document → Option String → Option String → Prop
  | object {entries : List (String × Node)} {errorCode detail : Option String}
      (code : TellsOnce (nodesOf "errorCode" entries) errorCode)
      (text : TellsOnce (nodesOf "detail" entries) detail)
      (further : ∀ entry ∈ entries, entry.1 ≠ "errorCode" → entry.1 ≠ "detail" →
        entry.2.textFault = none) :
      Told ⟨.object (.ofList entries), none⟩ errorCode detail
  | array {nodes : List Node} {errorCode detail : Option String} (few : nodes.length ≤ 2)
      (code : TellsOnce nodes[0]?.toList errorCode) (text : TellsOnce nodes[1]?.toList detail) :
      Told ⟨.array (.ofList nodes), none⟩ errorCode detail

/-- A text that may be unset is read from a node that tells it. -/
theorem decode_eq_ok_iff_tells {depth : Nat} {node : Node} {told : Option String} :
    Json.Codec.text.optional.decode depth node = .ok told ↔ Tells node told := by
  constructor
  · intro decodes
    cases node with
    | null =>
        cases decodes
        exact .null
    | string value =>
        cases value with
        | ok text =>
            cases decodes
            exact .text text
        | error fault => cases decodes
    | _ => cases decodes
  · rintro (_ | text) <;> rfl

/-- A field that may be unset is read from the nodes that tell it. -/
theorem reads_iff_tellsOnce {depth : Nat} {name : String} {nodes : List Node}
    {told : Option String} :
    (Json.Field.optional name Json.Codec.text).Reads depth nodes told ↔ TellsOnce nodes told := by
  constructor
  · rintro (decodes | stands)
    · exact .present (decode_eq_ok_iff_tells.mp decodes)
    · cases stands
      exact .absent
  · rintro (_ | tells)
    · exact .absent rfl
    · exact .held (decode_eq_ok_iff_tells.mpr tells)

theorem tellsOnce_nil_iff {told : Option String} : TellsOnce [] told ↔ told = none :=
  ⟨fun tells => by cases tells; rfl, fun silent => silent ▸ .absent⟩

theorem tellsOnce_singleton_iff {node : Node} {told : Option String} :
    TellsOnce [node] told ↔ Tells node told :=
  ⟨fun tells => by cases tells; assumption, .present⟩

/-- An item that is not there tells nothing. -/
theorem absentItem_eq_iff {name : String} {told : Option String} :
    (Json.Field.optional name Json.Codec.text).absentItem = some told ↔ TellsOnce [] told := by
  rw [tellsOnce_nil_iff, eq_comm]
  exact Option.some_inj

/-- The two fields are read from the items of an array that has no more than them. -/
theorem readsInOrder_iff {depth : Nat} {nodes : List Node} {errorCode detail : Option String} :
    fields.ReadsInOrder depth nodes (errorCode, detail, ()) ↔ nodes.length ≤ 2 ∧
      TellsOnce nodes[0]?.toList errorCode ∧ TellsOnce nodes[1]?.toList detail := by
  have text (node : Node) (told : Option String) :
      Json.Codec.text.optional.decode depth node = .ok told ↔ TellsOnce [node] told :=
    decode_eq_ok_iff_tells.trans tellsOnce_singleton_iff.symm
  rcases nodes with _ | ⟨first, _ | ⟨second, rest⟩⟩
  · show _ ∧ _ ∧ [] = [] ↔ _
    simp [absentItem_eq_iff]
  · show Json.Codec.text.optional.decode depth first = _ ∧ _ ∧ [] = [] ↔ _
    simp [absentItem_eq_iff, text]
  · show Json.Codec.text.optional.decode depth first = _ ∧
      Json.Codec.text.optional.decode depth second = _ ∧ rest = [] ↔ _
    have few : rest.length + 1 + 1 ≤ 2 ↔ rest = [] := by
      rw [← List.length_eq_zero_iff]
      omega
    simp only [text, List.length_cons, few]
    exact ⟨fun ⟨code, detail, last⟩ => ⟨last, code, detail⟩,
      fun ⟨last, code, detail⟩ => ⟨code, detail, last⟩⟩

/-- The entries of an object are read when each of the two tells at most once. -/
theorem reads_iff {depth : Nat} {entries : List (String × Node)}
    {errorCode detail : Option String} :
    fields.Reads depth entries (errorCode, detail, ()) ↔
      TellsOnce (nodesOf "errorCode" entries) errorCode ∧
        TellsOnce (nodesOf "detail" entries) detail := by
  show _ ∧ _ ∧ True ↔ _
  rw [reads_iff_tellsOnce, reads_iff_tellsOnce, and_true]
  rfl

/-- The names of the two are the names of the fields. -/
theorem notMem_names_iff {name : String} :
    name ∉ fields.names ↔ name ≠ "errorCode" ∧ name ≠ "detail" := by
  show name ∉ ["errorCode", "detail"] ↔ _
  simp

/-- A document decodes exactly when it tells a code and a detail. -/
theorem decode_eq_ok_iff_told {document : Document} {errorCode detail : Option String} :
    document.decode codec.decode = .ok ⟨errorCode, detail⟩ ↔ Told document errorCode detail := by
  obtain ⟨root, behind⟩ := document
  rw [Json.Document.decode_eq_ok_iff, codec, Json.Fields.codec_decode_eq_ok_iff (by decide)]
  constructor
  · rintro ⟨⟨-, ⟨_, _, ⟨⟩⟩, built, ⟨entries, same, reads, formed⟩ | ⟨nodes, same, reads⟩⟩, none⟩
    · cases built
      cases same
      cases none
      obtain ⟨code, text⟩ := reads_iff.mp reads
      exact .object code text fun entry listed notCode notDetail =>
        formed entry listed (notMem_names_iff.mpr ⟨notCode, notDetail⟩)
    · cases built
      cases same
      cases none
      obtain ⟨few, code, text⟩ := readsInOrder_iff.mp reads
      exact .array few code text
  · rintro (⟨code, text, further⟩ | ⟨few, code, text⟩)
    · refine ⟨⟨by decide, (errorCode, detail, ()), rfl,
        .inl ⟨_, rfl, reads_iff.mpr ⟨code, text⟩, ?_⟩⟩, rfl⟩
      intro entry listed unknown
      obtain ⟨notCode, notDetail⟩ := notMem_names_iff.mp unknown
      exact further entry listed notCode notDetail
    · exact ⟨⟨by decide, (errorCode, detail, ()), rfl,
        .inr ⟨_, rfl, readsInOrder_iff.mpr ⟨few, code, text⟩⟩⟩, rfl⟩

/-- What the bytes of a body tell of a failure. Bytes of any other form tell nothing. -/
def HeardFrom (bytes : List UInt8) (errorCode detail : Option String) : Prop :=
  Told (.ofBytes bytes) errorCode detail ∨
    (∀ code text, ¬Told (.ofBytes bytes) code text) ∧ errorCode = none ∧ detail = none

/-- A body is read as what it tells. -/
theorem ofBytes_eq_iff {bytes : List UInt8} {errorCode detail : Option String} :
    ofBytes bytes = ⟨errorCode, detail⟩ ↔ HeardFrom bytes errorCode detail := by
  rw [ofBytes, HeardFrom]
  simp only [← decode_eq_ok_iff_told]
  cases (Document.ofBytes bytes).decode codec.decode with
  | ok body =>
      have told : ∃ code text, body = ⟨code, text⟩ := ⟨_, _, rfl⟩
      simpa using fun silent => absurd told (by simpa using silent)
  | error problem => simp [eq_comm]

end FailureBody

namespace Http.Response

/-- The code and the text of the failure that an answer reports. The code is empty when the body tells
none, and the phrase of the status stands in for the detail. -/
def Reports (response : Response) (code text : String) : Prop :=
  ∃ errorCode detail, FailureBody.HeardFrom response.body errorCode detail ∧
    code = errorCode.getD "" ∧ text = detail.getD (phrase response.status)

/-- Every answer reports one code and one text. -/
theorem exists_reports (response : Response) : ∃ code text,
    (∀ other shown, response.Reports other shown ↔ other = code ∧ shown = text) ∧
      response.failure = .ofResponse response.status code text := by
  refine ⟨_, _, ?_, rfl⟩
  intro other shown
  constructor
  · rintro ⟨errorCode, detail, heard, rfl, rfl⟩
    rw [FailureBody.ofBytes_eq_iff.mpr heard]
    exact ⟨rfl, rfl⟩
  · rintro ⟨rfl, rfl⟩
    exact ⟨_, _, FailureBody.ofBytes_eq_iff.mp rfl, rfl, rfl⟩

/-- The status of an answer is a success. -/
def Succeeds (response : Response) : Prop :=
  200 ≤ response.status ∧ response.status < 300

/-- The status of an answer or the code that it reports says that an entity is missing. -/
def TellsAbsence (response : Response) (code : String) : Prop :=
  response.status = 404 ∨ code = "NOT_IN_GROUP" ∨ code = "GROUP_NAME_NOT_FOUND" ∨
    code = "GROUP_NOT_FOUND" ∨ code = "RESOURCE_NOT_FOUND"

theorem succeeds_iff {response : Response} :
    response.Succeeds ↔ isSuccess response.status = true := by
  rw [Succeeds, isSuccess, Bool.and_eq_true, decide_eq_true_iff, decide_eq_true_iff,
    Nat.lt_succ_iff]

theorem read_of_succeeds {codec : Json.Codec α} {response : Response}
    (succeeds : response.Succeeds) : response.read codec =
      ((Json.Document.ofBytes response.body).decode codec.decode).mapError fun problem =>
        .decode problem.message :=
  if_pos (succeeds_iff.mp succeeds)

theorem read_of_not_succeeds {codec : Json.Codec α} {response : Response}
    (fails : ¬response.Succeeds) : response.read codec = .error response.failure :=
  if_neg (mt succeeds_iff.mpr fails)

theorem tellsAbsence_iff {response : Response} {code : String} : response.TellsAbsence code ↔
    response.status = 404 ∨ code ∈ CallError.notFoundCodes := by
  simp [TellsAbsence, CallError.notFoundCodes]

theorem ofResponse_of_tellsAbsence {response : Response} {code text : String}
    (missing : response.TellsAbsence code) : CallError.ofResponse response.status code text =
      .notFound (if text = "" then code else text) := by
  rw [CallError.ofResponse, if_pos (tellsAbsence_iff.mp missing)]
  simp

theorem ofResponse_of_not_tellsAbsence {response : Response} {code text : String}
    (present : ¬response.TellsAbsence code) : CallError.ofResponse response.status code text =
      .status response.status code text :=
  if_neg (mt tellsAbsence_iff.mpr present)

/-- The status and the body of an answer decide what it is read as: a value or a body that does not
decode when the status is a success, and otherwise a missing entity or another failure. -/
theorem answer_is_classified (codec : Json.Codec α) (response : Response) :
    (∀ value, response.read codec = .ok value ↔ response.Succeeds ∧
      (Json.Document.ofBytes response.body).decode codec.decode = .ok value) ∧
    ((∃ problem, response.read codec = .error (.decode problem)) ↔ response.Succeeds ∧
      ∀ value, (Json.Document.ofBytes response.body).decode codec.decode ≠ .ok value) ∧
    ∃ code text, (∀ other shown, response.Reports other shown ↔ other = code ∧ shown = text) ∧
      (∀ told, response.read codec = .error (.notFound told) ↔ ¬response.Succeeds ∧
        response.TellsAbsence code ∧ told = if text = "" then code else text) ∧
      ∀ status other shown, response.read codec = .error (.status status other shown) ↔
        ¬response.Succeeds ∧ ¬response.TellsAbsence code ∧ status = response.status ∧
          other = code ∧ shown = text := by
  obtain ⟨code, text, reports, failure⟩ := response.exists_reports
  by_cases succeeds : response.Succeeds
  · rw [read_of_succeeds succeeds]
    cases decoded : (Json.Document.ofBytes response.body).decode codec.decode with
    | ok value =>
        rw [Json.mapError_ok]
        refine ⟨?_, ?_, code, text, reports, ?_, ?_⟩ <;> simp [succeeds]
    | error problem =>
        rw [Json.mapError_error]
        refine ⟨?_, ?_, code, text, reports, ?_, ?_⟩ <;> simp [succeeds]
  · rw [read_of_not_succeeds succeeds, failure]
    by_cases missing : response.TellsAbsence code
    · rw [ofResponse_of_tellsAbsence missing]
      refine ⟨?_, ?_, code, text, reports, ?_, ?_⟩ <;> simp [succeeds, missing, eq_comm]
    · rw [ofResponse_of_not_tellsAbsence missing]
      refine ⟨?_, ?_, code, text, reports, ?_, ?_⟩ <;> simp [succeeds, missing, eq_comm]

end Http.Response

end OrgFederation
