import Operly.Mcp.BodyPreparation
import Operly.Mcp.RetryIdentity

/-! When the request middleware keeps the meaning of an MCP body and lets no exception escape. -/

namespace Operly.Mcp.Body
open Python JsonModule

section Meaning

variable (python : Interpreter)

def SameCall (sent received : Value) : Prop :=
  received = sent ∨ ∃ payload params : Entries, sent = .obj payload ∧
    payload.get (PyText.ofString "params") = some (.obj params) ∧
    ((∃ (entries : Entries) (requestId : Value), params.get (PyText.ofString "_meta") = some (.obj entries) ∧
        received = .obj (payload.set (PyText.ofString "params") (.obj (params.set (PyText.ofString "_meta")
          (.obj (entries.set (PyText.ofString "operly/requestId") requestId)))))) ∨
      params.get (PyText.ofString "_meta") = none ∧
        ∃ inside, received = .obj (payload.set (PyText.ofString "params")
          (.obj (params.set (PyText.ofString "_meta") inside))))

/-- A body is refused for a reason, or delivered with its meaning; no exception escapes, and no object with a
repeated key passes. -/
def Faithful (raw : List UInt8) : Prop :=
  match passage python raw with
  | .refused .. => True
  | .serverError => False
  | .delivered body =>
      (∃ sent received, loads dictionary python.floats python.depth raw = .ok sent ∧
        loads dictionary python.floats python.depth body = .ok received ∧ SameCall sent received) ∧
      ∃ literal, loads .ok python.floats python.depth raw = .ok literal ∧ Distinct literal

def Writable (payload params : Entries) (id : SentId) : Prop :=
  (textOf python params "name").Plain ∧ PlainValue id.value ∧
    match params.get (PyText.ofString "_meta") with
    | none => PlainValue (.obj payload)
    | some .null => False
    | some (.obj entries) =>
        (textOf python entries "operly/requestId").Plain ∧
          (maxRuntimeRequestIdBytes < ((textOf python entries "operly/requestId").encode.getD []).length ∨
            PlainValue (.obj (withRequestId payload params entries [])))
    | some _ => True

/-- `json` hits none of its limits on the body, and a tool call in it is `Writable`. -/
def Manageable (raw : List UInt8) : Prop :=
  match loads uniqueObject python.floats python.depth raw with
  | .error error => error ≠ .digits ∧ error ≠ .recursion
  | .ok (.obj payload) =>
      callsTool python payload = true → ∀ id params, sentRpcId payload = .ok id → sentParams payload = .ok params →
        Writable python payload params id
  | .ok _ => True

variable {python}

theorem withRequestId_wellFormed {payload params entries : Entries}
    (formed : WellFormed python.floats python.depth (.obj payload))
    (held : payload.get (PyText.ofString "params") = some (.obj params))
    (described : entries = [] ∨ params.get (PyText.ofString "_meta") = some (.obj entries)) (requestId : PyText) :
    WellFormed python.floats python.depth (.obj (withRequestId payload params entries requestId)) := by
  obtain ⟨less, depth⟩ := Nat.exists_eq_add_of_le python.deep
  rw [show python.depth = less + 2 + 1 by omega] at formed ⊢
  have inner := formed.get held
  have innermost : WellFormed python.floats (less + 1) (.obj entries) := by
    rcases described with none | some
    · rw [none]
      exact .obj List.nodup_nil fun entry member => by cases member
    · exact inner.get some
  exact formed.set (inner.set (innermost.set (.str requestId) _) _) _

theorem loads_encodePayload {payload : Entries} (formed : WellFormed python.floats python.depth (.obj payload))
    (nonempty : payload ≠ []) {bytes : List UInt8}
    (encoded : (dumps python.floats (.obj payload)).encode = some bytes) :
    loads dictionary python.floats python.depth bytes = .ok (.obj payload) := by
  cases payload with
  | nil => exact absurd rfl nonempty
  | cons entry rest => exact loads_dumps (fun pairs => dictionary_of_nodup) formed encoded

theorem plain_withRequestId (payload params entries : Entries) {first second : PyText} (one : first.Plain)
    (other : second.Plain) : PlainValue (.obj (withRequestId payload params entries first)) ↔
      PlainValue (.obj (withRequestId payload params entries second)) :=
  plain_set_congr _ _ (plain_set_congr _ _ (plain_set_congr _ _ (iff_of_true (.str one) (.str other))))

theorem plain_withRequestId_of_absent {payload params : Entries}
    (held : payload.get (PyText.ofString "params") = some (.obj params))
    (absent : params.get (PyText.ofString "_meta") = none) {requestId : PyText} (plain : requestId.Plain) :
    PlainValue (.obj (withRequestId payload params [] requestId)) ↔ PlainValue (.obj payload) := by
  have named : PlainValue (.obj (Entries.set [] (PyText.ofString "operly/requestId") (.str requestId))) := by
    rw [Entries.set, plain_obj_iff, List.forall_mem_singleton]
    exact ⟨PyText.plain_ofString _, .str plain⟩
  have inside := plain_set_of_absent absent (PyText.plain_ofString _) named
  rw [withRequestId, plain_set_congr payload _ inside, Entries.set_get held]

/-! ### Bodies -/

theorem sentParams_eq_ok {payload params : Entries} (read : sentParams payload = .ok params) :
    payload.get (PyText.ofString "params") = some (.obj params) := by
  unfold sentParams at read
  split at read
  · next held =>
    cases read
    exact held
  · cases read

section Body

variable {raw : List UInt8}

theorem faithful_of_refusal {error : McpRequestSafetyError}
    (prepared : prepareBody python raw = .error (.safety error)) : Faithful python raw := by
  rw [Faithful, passage, prepared]
  trivial

variable {error : PreparationError}

theorem not_faithful_of_escape (prepared : prepareBody python raw = .error error)
    (escapes : ∀ safety, error ≠ .safety safety) : ¬ Faithful python raw := by
  rw [Faithful, passage, prepared]
  cases error with
  | safety safety => exact absurd rfl (escapes safety)
  | digits => exact id
  | recursion => exact id
  | unicode => exact id

theorem faithful_of_delivery {body : List UInt8} {sent received : Value}
    (loaded : loads uniqueObject python.floats python.depth raw = .ok sent)
    (prepared : prepareBody python raw = .ok body)
    (read : loads dictionary python.floats python.depth body = .ok received) :
    Faithful python raw ↔ SameCall sent received := by
  obtain ⟨formed, plainly, literally⟩ := loads_unique loaded
  rw [Faithful, passage, prepared]
  constructor
  · intro both
    obtain ⟨⟨first, second, one, other, same⟩, -⟩ := both
    rw [plainly] at one
    rw [read] at other
    rw [Except.ok.inj one, Except.ok.inj other]
    exact same
  · exact fun same => ⟨⟨sent, received, plainly, read, same⟩, sent, literally, formed.distinct⟩

theorem ne_nil_of_loads {hook : PairsHook} {value : Value}
    (loaded : loads hook python.floats python.depth raw = .ok value) : raw ≠ [] := by
  intro empty
  obtain ⟨text, rest, decoded, scanned, -⟩ := loads_eq_ok loaded
  rw [empty] at decoded
  have nothing : text = [] := (Option.some.inj decoded).symm
  rw [nothing] at scanned
  rw [show skip [] = [] from rfl, scanOnce_nil] at scanned
  cases scanned

variable {payload params : Entries} {id : SentId}

theorem faithful_of_written (loaded : loads uniqueObject python.floats python.depth raw = .ok (.obj payload))
    (held : payload.get (PyText.ofString "params") = some (.obj params)) {entries : Entries}
    (described : entries = [] ∨ params.get (PyText.ofString "_meta") = some (.obj entries)) {requestId : PyText}
    (prepared : prepareBody python raw = encodePayload python (withRequestId payload params entries requestId)) :
    Faithful python raw ↔ PlainValue (.obj (withRequestId payload params entries requestId)) ∧
      SameCall (.obj payload) (.obj (withRequestId payload params entries requestId)) := by
  have formed := withRequestId_wellFormed (loads_unique loaded).1 held described requestId
  by_cases plain : PlainValue (.obj (withRequestId payload params entries requestId))
  · obtain ⟨bytes, written, encoded⟩ := encodePayload_of_plain formed plain
    have read := loads_encodePayload formed (Entries.set_ne_nil _ _ _) encoded
    rw [faithful_of_delivery loaded (prepared.trans written) read, and_iff_right plain]
  · have failed := prepared.trans (encodePayload_of_not_plain formed plain)
    exact iff_of_false (not_faithful_of_escape failed fun safety same => by cases same) fun both => plain both.1

theorem get_withRequestId (payload params entries : Entries) (requestId : PyText) :
    (withRequestId payload params entries requestId).get (PyText.ofString "params") =
      some (.obj (params.set (PyText.ofString "_meta")
        (.obj (entries.set (PyText.ofString "operly/requestId") (.str requestId))))) := by
  rw [withRequestId, Entries.get_set, if_pos rfl]

theorem not_sameCall_of_null (held : payload.get (PyText.ofString "params") = some (.obj params))
    (null : params.get (PyText.ofString "_meta") = some .null) (requestId : PyText) :
    ¬ SameCall (.obj payload) (.obj (withRequestId payload params [] requestId)) := by
  rintro (same | ⟨payload', params', same, found, either⟩)
  · rw [Value.obj.injEq] at same
    have delivered := get_withRequestId payload params [] requestId
    rw [same, held, Option.some.injEq, Value.obj.injEq] at delivered
    rw [delivered, Entries.get_set, if_pos rfl] at null
    cases null
  · cases same
    rw [held, Option.some.injEq, Value.obj.injEq] at found
    rw [← found] at either
    rcases either with ⟨entries, _, described, -⟩ | ⟨absent, -⟩
    · rw [null] at described
      cases described
    · rw [null] at absent
      cases absent

theorem textOf_nil (key : String) : textOf python [] key = [] := rfl

variable (python) in
theorem chosenRequestId_cases (entries : Entries) {stable : PyText} (plain : stable.Plain) :
    (¬ (textOf python entries "operly/requestId").Plain ∧
      chosenRequestId python entries stable = .error .unicode) ∨
    (textOf python entries "operly/requestId").Plain ∧
      (maxRuntimeRequestIdBytes < ((textOf python entries "operly/requestId").encode.getD []).length ∧
          (∃ safety, chosenRequestId python entries stable = .error (.safety safety)) ∨
        ¬ maxRuntimeRequestIdBytes < ((textOf python entries "operly/requestId").encode.getD []).length ∧
          ∃ requestId, chosenRequestId python entries stable = .ok requestId ∧ requestId.Plain) := by
  by_cases blank : textOf python entries "operly/requestId" = []
  · refine .inr ⟨by rw [blank]; exact PyText.plain_nil, .inr ⟨by rw [blank]; decide, stable, ?_, plain⟩⟩
    simp only [chosenRequestId, blank, if_true]
  · by_cases explicit : (textOf python entries "operly/requestId").Plain
    · obtain ⟨bytes, encoded, written⟩ := encodeUtf8_of_plain explicit
      refine .inr ⟨explicit, ?_⟩
      rw [encoded, Option.getD_some]
      by_cases long : maxRuntimeRequestIdBytes < bytes.length
      · have refused : chosenRequestId python entries stable =
            .error (refusal "MCP_REQUEST_ID_TOO_LONG" "operly/requestId exceeds the durable request-id limit") := by
          simp only [chosenRequestId, if_neg blank, written, bind, Except.bind, if_pos long]
        exact .inl ⟨long, _, refused⟩
      · refine .inr ⟨long, _, ?_, explicit⟩
        simp only [chosenRequestId, if_neg blank, written, bind, Except.bind, if_neg long]
    · refine .inl ⟨explicit, ?_⟩
      simp only [chosenRequestId, if_neg blank, encodeUtf8_of_not_plain explicit, bind, Except.bind]

theorem faithful_call_iff (loaded : loads uniqueObject python.floats python.depth raw = .ok (.obj payload))
    (calls : callsTool python payload = true) (identified : sentRpcId payload = .ok id)
    (read : sentParams payload = .ok params) : Faithful python raw ↔ Writable python payload params id := by
  have held := sentParams_eq_ok read
  have start : prepareBody python raw = prepareSentCall python payload := by
    simp only [prepareBody, if_neg (ne_nil_of_loads loaded), loaded, calls, if_true]
  by_cases scalar : (textOf python params "name").Plain ∧ PlainValue id.value
  · obtain ⟨stable, named, plain⟩ := stableRequestId_of_plain python scalar.1 scalar.2
    have calling : prepareBody python raw = (do
        let entries ← sentMeta params
        let requestId ← chosenRequestId python entries stable
        encodePayload python (withRequestId payload params entries requestId)) := by
      rw [start]
      simp only [prepareSentCall, identified, read, named, bind, Except.bind]
    have refuse : ∀ {safety : McpRequestSafetyError}, sentMeta params = .error (.safety safety) →
        Faithful python raw := by
      intro safety refused
      have failed : prepareBody python raw = .error (.safety safety) := by
        simp only [calling, refused, bind, Except.bind]
      exact faithful_of_refusal failed
    cases described : params.get (PyText.ofString "_meta") with
    | none =>
      have prepared : prepareBody python raw = encodePayload python (withRequestId payload params [] stable) := by
        simp only [calling, sentMeta, described, chosenRequestId, textOf_nil, if_true, bind, Except.bind]
      have same : SameCall (.obj payload) (.obj (withRequestId payload params [] stable)) :=
        .inr ⟨payload, params, rfl, held, .inr ⟨described, _, rfl⟩⟩
      rw [faithful_of_written loaded held (.inl rfl) prepared, and_iff_left same,
        plain_withRequestId_of_absent held described plain, Writable, described, and_iff_right scalar.1,
        and_iff_right scalar.2]
    | some value =>
      cases value with
      | null =>
        have prepared : prepareBody python raw = encodePayload python (withRequestId payload params [] stable) := by
          simp only [calling, sentMeta, described, chosenRequestId, textOf_nil, if_true, bind, Except.bind]
        rw [faithful_of_written loaded held (.inl rfl) prepared, Writable, described]
        exact iff_of_false (fun both => not_sameCall_of_null held described stable both.2)
          fun writable => writable.2.2
      | obj entries =>
        have given : sentMeta params = .ok entries := by simp only [sentMeta, described]
        have writable : Writable python payload params id ↔
            (textOf python entries "operly/requestId").Plain ∧
              (maxRuntimeRequestIdBytes < ((textOf python entries "operly/requestId").encode.getD []).length ∨
                PlainValue (.obj (withRequestId payload params entries []))) := by
          rw [Writable, described, and_iff_right scalar.1, and_iff_right scalar.2]
        rw [writable]
        rcases chosenRequestId_cases python entries plain with ⟨wild, failed⟩ |
          ⟨explicit, ⟨long, safety, refused⟩ | ⟨short, requestId, chosen, fits⟩⟩
        · have escaped : prepareBody python raw = .error .unicode := by
            simp only [calling, given, failed, bind, Except.bind]
          exact iff_of_false (not_faithful_of_escape escaped fun safety same => by cases same)
            fun both => wild both.1
        · have prepared : prepareBody python raw = .error (.safety safety) := by
            simp only [calling, given, refused, bind, Except.bind]
          exact iff_of_true (faithful_of_refusal prepared) ⟨explicit, .inl long⟩
        · have prepared : prepareBody python raw =
              encodePayload python (withRequestId payload params entries requestId) := by
            simp only [calling, given, chosen, bind, Except.bind]
          have same : SameCall (.obj payload) (.obj (withRequestId payload params entries requestId)) :=
            .inr ⟨payload, params, rfl, held, .inl ⟨entries, _, described, rfl⟩⟩
          rw [faithful_of_written loaded held (.inr described) prepared, and_iff_left same, and_iff_right explicit,
            or_iff_right short, plain_withRequestId payload params entries fits PyText.plain_nil]
      | _ =>
        have refused := refuse (by simp only [sentMeta, described]; rfl)
        exact iff_of_true refused ⟨scalar.1, scalar.2, by rw [described]; trivial⟩
  · have failed : prepareBody python raw = .error .unicode := by
      rw [start]
      simp only [prepareSentCall, identified, read, stableRequestId_of_not_plain scalar, bind, Except.bind]
    apply iff_of_false (not_faithful_of_escape failed fun safety same => by cases same)
    exact fun writable => scalar ⟨writable.1, writable.2.1⟩

theorem loads_nil (hook : PairsHook) : loads hook python.floats python.depth [] = .error .invalid := by
  have text : decode (detectEncoding []) [] = some [] := by decide
  rw [loads, text]
  simp only [decodeText, show skip [] = [] from rfl, scanOnce_nil, bind, Except.bind]

theorem prepareBody_of_error {error : LoadError}
    (failed : loads uniqueObject python.floats python.depth raw = .error error) :
    prepareBody python raw = .error (ofLoadError error) := by
  by_cases empty : raw = []
  · rw [empty, loads_nil] at failed
    rw [prepareBody, if_pos empty, ← Except.error.inj failed]
    rfl
  · simp only [prepareBody, if_neg empty, failed]

theorem faithful_error_iff {error : LoadError}
    (failed : loads uniqueObject python.floats python.depth raw = .error error) :
    Faithful python raw ↔ error ≠ .digits ∧ error ≠ .recursion := by
  have prepared := prepareBody_of_error failed
  cases error with
  | invalid => exact iff_of_true (faithful_of_refusal prepared) (by decide)
  | duplicate => exact iff_of_true (faithful_of_refusal prepared) (by decide)
  | digits =>
    exact iff_of_false (not_faithful_of_escape prepared fun safety same => by cases same) (by decide)
  | recursion =>
    exact iff_of_false (not_faithful_of_escape prepared fun safety same => by cases same) (by decide)

theorem sentRpcId_eq_error (failed : sentRpcId payload = .error error) : ∃ safety, error = .safety safety := by
  unfold sentRpcId at failed
  split at failed
  · cases failed
  · cases failed
  · cases failed
  · cases failed
    exact ⟨_, rfl⟩

theorem sentParams_eq_error (failed : sentParams payload = .error error) : ∃ safety, error = .safety safety := by
  unfold sentParams at failed
  split at failed
  · cases failed
  · cases failed
    exact ⟨_, rfl⟩

theorem faithful_of_malformed (loaded : loads uniqueObject python.floats python.depth raw = .ok (.obj payload))
    (calls : callsTool python payload = true) (malformed : sentRpcId payload = .error error ∨
      ∃ id, sentRpcId payload = .ok id ∧ sentParams payload = .error error) : Faithful python raw := by
  have start : prepareBody python raw = prepareSentCall python payload := by
    simp only [prepareBody, if_neg (ne_nil_of_loads loaded), loaded, calls, if_true]
  rcases malformed with failed | ⟨id, identified, failed⟩
  · obtain ⟨safety, same⟩ := sentRpcId_eq_error failed
    have prepared : prepareBody python raw = .error (.safety safety) := by
      simp only [start, prepareSentCall, failed, same, bind, Except.bind]
    exact faithful_of_refusal prepared
  · obtain ⟨safety, same⟩ := sentParams_eq_error failed
    have prepared : prepareBody python raw = .error (.safety safety) := by
      simp only [start, prepareSentCall, identified, failed, same, bind, Except.bind]
    exact faithful_of_refusal prepared

end Body

/-- A body is refused or keeps its meaning just when `json` hits none of its limits on it, and the texts of a tool
call in it can be encoded. -/
theorem prepareBody_faithful_iff (python : Interpreter) (raw : List UInt8) :
    Faithful python raw ↔ Manageable python raw := by
  cases loaded : loads uniqueObject python.floats python.depth raw with
  | error error => rw [faithful_error_iff loaded, Manageable, loaded]
  | ok value =>
    have nonempty := ne_nil_of_loads loaded
    cases value with
    | obj payload =>
      cases calls : callsTool python payload with
      | false =>
        have prepared : prepareBody python raw = .ok raw := by
          simp only [prepareBody, if_neg nonempty, loaded, calls, Bool.false_eq_true, if_false]
        rw [faithful_of_delivery loaded prepared (loads_unique loaded).2.1, Manageable, loaded]
        exact iff_of_true (.inl rfl) fun other => absurd (calls.symm.trans other) (by decide)
      | true =>
        simp only [Manageable, loaded, calls, true_imp_iff]
        cases identified : sentRpcId payload with
        | error error =>
          exact iff_of_true (faithful_of_malformed loaded calls (.inl identified)) fun id params same => by cases same
        | ok id =>
          cases read : sentParams payload with
          | error error =>
            exact iff_of_true (faithful_of_malformed loaded calls (.inr ⟨id, identified, read⟩))
              fun id params _ same => by cases same
          | ok params =>
            rw [faithful_call_iff loaded calls identified read]
            constructor
            · intro writable other others same held
              rw [← Except.ok.inj same, ← Except.ok.inj held]
              exact writable
            · exact fun writable => writable id params rfl rfl
    | _ =>
      have prepared : prepareBody python raw =
          .error (refusal "MCP_REQUEST_INVALID" "MCP requests must be a JSON object") := by
        simp only [prepareBody, if_neg nonempty, loaded]
      rw [Manageable, loaded]
      exact iff_of_true (faithful_of_refusal prepared) trivial

end Meaning

def sampleInterpreter : Interpreter where
  floats := FixedPoint.floats
  container _ := ""
  depth := 1000
  deep := by decide
  sha256 := sampleDigests

/-- `{"method":"tools/call","id":1,"params":{"name":"\ud800"}}` -/
def surrogateBody : List UInt8 :=
  "\x7b\"method\":\"tools/call\",\"id\":1,\"params\":\x7b\"name\":\"\\ud800\"\x7d\x7d".toList.map
    fun c => UInt8.ofNat c.toNat

theorem not_faithful_of_serverError {python : Interpreter} {raw : List UInt8}
    (failed : (passage python raw).isServerError = true) : ¬ Faithful python raw := by
  cases shape : passage python raw with
  | delivered body =>
    rw [shape] at failed
    cases failed
  | refused status code message =>
    rw [shape] at failed
    cases failed
  | serverError =>
    rw [Faithful, shape]
    exact id

/-- A lone surrogate in the tool name raises an exception that nothing catches. -/
theorem surrogateBody_escapes : ¬ Faithful sampleInterpreter surrogateBody :=
  not_faithful_of_serverError (by decide +kernel)

end Operly.Mcp.Body
