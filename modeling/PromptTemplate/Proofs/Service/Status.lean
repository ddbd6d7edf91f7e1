import PromptTemplate.Proofs.Json.LongInteger
import PromptTemplate.Proofs.Json.Sent
import PromptTemplate.Proofs.Service.Answers

/-!
# The status of replies to bodies

A body that is no JSON, no object or not of the endpoint's schema is refused as such, and any other gets an
answer or a refusal with a cause of its own. The service is not prepared for four kinds of bodies
(`IsUnforeseen`): with an integer of too many digits, with too many lists and objects inside one another, with
a lone surrogate in a text, or so large that a length has too many digits. Only these make it fail, and the
first two always do (`respond_post_status`).
-/

namespace PromptTemplate.Service

open Data Json Text

/-- A body for which the service is not prepared: the reader of JSON refuses it although it may be JSON, or
what is said of it may have no bytes. -/
inductive IsUnforeseen (body : List UInt8) : Prop
  | longInteger (digits : Nat) (h : readBytes body = .error (.tooLong digits))
  | deepNesting (h : readBytes body = .error .tooDeep)
  | loneSurrogate (d : Data) (t : Text) (h : readBytes body = .ok d) (ht : Part (.text t) d)
    (hs : t.isScalar = false)
  | hugeBody (h : 10 ^ Numeral.maxDigits ≤ body.length)

/-- The schema of an endpoint admits a value. An endpoint that takes no body has no schema. -/
def Endpoint.Admits (e : Endpoint) (d : Data) : Prop :=
  match e with
  | .health | .facts => True
  | .tokens => (TokensBody.ofData? d).isSome
  | .template e => (TemplateBody.ofData? e d).isSome

instance (e : Endpoint) (d : Data) : Decidable (e.Admits d) := by
  cases e <;> unfold Endpoint.Admits <;> infer_instance

variable {body : List UInt8} {path requestId : Text} {d : Data}

/-! ### Reading a body -/

section Reading

variable (hbody : ¬ IsUnforeseen body)
include hbody

theorem isClean_of_not_isUnforeseen (h : readBytes body = .ok d) : d.IsClean where
  text t ht := by
    by_contra hs
    exact hbody (.loneSurrogate d t h ht (Bool.eq_false_iff.mpr hs))
  bytes bs hbs := by cases (fits_of_readBytes h).part hbs

theorem length_lt_of_not_isUnforeseen : body.length < 10 ^ Numeral.maxDigits :=
  Nat.lt_of_not_le fun h => hbody (.hugeBody h)

theorem readBytes_cases_of_not_isUnforeseen :
    readBytes body = .error .malformed ∨ ∃ d, readBytes body = .ok d := by
  cases h : readBytes body with
  | ok d => exact .inr ⟨d, rfl⟩
  | error f =>
    cases f with
    | malformed => exact .inl rfl
    | tooLong digits => exact absurd (.longInteger digits h) hbody
    | tooDeep => exact absurd (.deepNesting h) hbody

end Reading

theorem objectOf_of_malformed (h : readBytes body = .error .malformed) :
    objectOf body path = .error .notJson := by
  rw [objectOf, h]

theorem objectOf_of_refused {f : Json.Fault} (h : readBytes body = .error f) (hf : f ≠ .malformed) :
    objectOf body path = .error (.internal path) := by
  rw [objectOf, h]
  cases f with
  | malformed => exact absurd rfl hf
  | tooLong | tooDeep => rfl

theorem objectOf_of_ok (h : readBytes body = .ok d) :
    objectOf body path = if d.isMapping then .ok d else .error .notObject := by
  rw [objectOf, h]

theorem readBytes_of_objectOf (h : objectOf body path = .ok d) : readBytes body = .ok d := by
  cases hread : readBytes body with
  | error f =>
    rw [objectOf, hread] at h
    cases f <;> cases h
  | ok x =>
    rw [objectOf_of_ok hread] at h
    split_ifs at h
    cases h
    rfl

namespace TemplateBody

variable {e : TemplateEndpoint} {b : TemplateBody}

/-- The template was read from a part of the body, and so was the snapshot unless it is the empty one. -/
theorem exists_parts_of_ofData? (h : ofData? e d = some b) :
    (∃ x, Part x d ∧ Schema.text? x = some b.template) ∧
      (b.snapshot = {} ∨ ∃ x, Part x d ∧ Snapshot.ofData? x = some b.snapshot) := by
  unfold ofData? at h
  split at h
  · rename_i template snapshot bare own hr
    simp only [Option.bind_eq_bind, Option.bind_eq_some_iff, Option.some.injEq] at h
    obtain ⟨t, ht, s, hs, -, -, -, -, rfl⟩ := h
    exact ⟨Schema.exists_part_of_required hr (by simp) ht,
      Schema.eq_or_exists_part_of_withDefault hr (by simp) hs⟩
  · cases h

theorem isScalar_of_ofData? (hd : d.IsClean) (h : ofData? e d = some b) :
    b.template.isScalar = true ∧ b.snapshot.IsScalar := by
  obtain ⟨⟨x, hx, ht⟩, hs⟩ := exists_parts_of_ofData? h
  refine ⟨Schema.isScalar_of_text? (hd.part hx) ht, ?_⟩
  rcases hs with hs | ⟨y, hy, hs⟩
  · rw [hs]
    exact ⟨by simp, by simp, by simp⟩
  · exact Snapshot.isScalar_of_ofData? (hd.part hy) hs

theorem length_template_le {n : Nat} (hd : d.FitsIn n) (h : ofData? e d = some b) :
    b.template.length ≤ n := by
  obtain ⟨⟨x, hx, ht⟩, -⟩ := exists_parts_of_ofData? h
  exact Schema.length_of_text? (hd.part hx) ht

end TemplateBody

namespace TokensBody

variable {b : TokensBody}

theorem exists_part_of_ofData? (h : ofData? d = some b) :
    ∃ x, Part x d ∧ Snapshot.ofData? x = some b.snapshot := by
  unfold ofData? at h
  split at h
  · rename_i snapshot query hr
    simp only [Option.bind_eq_bind, Option.bind_eq_some_iff, Option.some.injEq] at h
    obtain ⟨s, hs, -, -, rfl⟩ := h
    exact Schema.exists_part_of_required hr (by simp) hs
  · cases h

end TokensBody

/-! ### Replies -/

namespace Work

/-- The status and the body of the reply that the work came to, before it is known to have bytes. -/
def outcome (w : Work) (requestId : Text) : Nat × Data :=
  match w.result with
  | .ok d => (200, d)
  | .error f => (f.status, f.toData requestId)

/-- What the work came to can be sent, and it is no failure of the service. -/
def IsAnswerable (w : Work) (requestId : Text) : Prop :=
  (w.outcome requestId).1 ≠ 500 ∧ IsSendable (w.outcome requestId).2

@[simp] theorem result_refuse (events : List Event) (f : Fault) (e : Endpoint) (stage : Option Stage) :
    (refuse events f e stage).result = .error f := by
  unfold refuse
  split <;> rfl

@[simp] theorem result_finish (events : List Event) (r : Except Fault Data) (e : Endpoint)
    (stage : Option Stage) : (finish events r e stage).result = r := by
  unfold finish
  split
  · rfl
  · exact result_refuse ..

variable {w : Work} {f : Fault}

theorem outcome_of_ok (hw : w.result = .ok d) : w.outcome requestId = (200, d) := by
  rw [outcome, hw]

theorem outcome_of_error (hw : w.result = .error f) :
    w.outcome requestId = (f.status, f.toData requestId) := by
  rw [outcome, hw]

theorem reply_of_isSent (h : IsSent (w.outcome requestId).2) :
    w.reply requestId path = ⟨(w.outcome requestId).1, (w.outcome requestId).2, requestId, w.events⟩ :=
  if_pos (Bool.and_eq_true_iff.mpr h)

theorem IsAnswerable.status_ne (h : w.IsAnswerable requestId) : (w.reply requestId path).status ≠ 500 := by
  rw [reply_of_isSent h.2.isSent]
  exact h.1

/-- A failure is answered with its status also where its own reply has to be replaced. -/
theorem status_of_internal (hw : w.result = .error (.internal path)) :
    (w.reply requestId path).status = 500 := by
  rw [reply, hw]
  dsimp only
  split <;> rfl

end Work

theorem Fault.get?_toData_code (f : Fault) (requestId : Text) :
    (f.toData requestId).get? "error_code" = some (.text f.code) := by
  simp [toData, Data.get?_object]

theorem isSendable_fault {f : Fault} (hid : requestId.isScalar = true)
    (hdetail : ∀ m ∈ f.detail, IsSendable m.2) : IsSendable (f.toData requestId) := by
  have hcode : f.code.isScalar = true := by cases f <;> exact isScalar_ofString _
  have hmessage : f.message.isScalar = true := by cases f <;> exact isScalar_ofString _
  simpa [Fault.toData, hcode, hmessage, hid, or_imp, forall_and] using hdetail

/-! ### Work on a body -/

/-- The work on a body at an endpoint: what is not read or not admitted is refused for that, and anything
else can be answered where the service is prepared for it. -/
structure Work.IsOn (w : Work) (e : Endpoint) (path requestId : Text) (body : List UInt8) : Prop where
  refused : ∀ f, objectOf body path = .error f → w.result = .error f
  schema : ∀ d, objectOf body path = .ok d → ¬ e.Admits d → w.result = .error .schema
  answered : ∀ d, objectOf body path = .ok d → e.Admits d → requestId.isScalar = true →
    ¬ IsUnforeseen body → w.IsAnswerable requestId

theorem result_tokensWork_of_ok (hd : objectOf body path = .ok d) :
    (tokensWork path body).result =
      ((TokensBody.ofData? d).map fun b =>
        .ok ((Catalog.ofSnapshot b.snapshot).filter? b.query).toData).getD (.error .schema) := by
  rw [tokensWork, Work.result_finish, hd]
  cases h : TokensBody.ofData? d <;> simp [bind, Except.bind, h]

theorem isOn_tokensWork (path requestId : Text) (body : List UInt8) :
    (tokensWork path body).IsOn .tokens path requestId body where
  refused f hf := by
    rw [tokensWork, Work.result_finish, hf]
    rfl
  schema d hd hno := by
    have hnone : TokensBody.ofData? d = none := Option.not_isSome_iff_eq_none.mp hno
    rw [result_tokensWork_of_ok hd, hnone]
    rfl
  answered d hd hadmits _ hbody := by
    obtain ⟨b, hb⟩ := Option.isSome_iff_exists.mp hadmits
    have hread := readBytes_of_objectOf hd
    obtain ⟨x, hx, hsnapshot⟩ := TokensBody.exists_part_of_ofData? hb
    have hscalar := Snapshot.isScalar_of_ofData? ((isClean_of_not_isUnforeseen hbody hread).part hx) hsnapshot
    have hlength := Snapshot.length_fields_le ((fits_of_readBytes hread).part hx) hsnapshot
    have hcount := Nat.lt_of_le_of_lt hlength (length_lt_of_not_isUnforeseen hbody)
    have hresult := result_tokensWork_of_ok hd
    rw [hb] at hresult
    rw [Work.IsAnswerable, Work.outcome_of_ok hresult]
    exact ⟨by simp, Catalog.isSendable_filter? (Catalog.isSendable_toData hscalar hcount) _⟩

theorem templateBody_of_ok (e : TemplateEndpoint) (hd : objectOf body path = .ok d) :
    templateBody e path body = ((TemplateBody.ofData? e d).map .ok).getD (.error .schema) := by
  rw [templateBody, hd]
  cases h : TemplateBody.ofData? e d <;> simp [bind, Except.bind, h]

/-- Without settings from outside the limit on templates is that of the defaults. -/
theorem bareFor_default (t : FileTree) (path : Text) (b : TemplateBody) :
    bareFor {} t path b =
      if (50000 : Int) < b.template.length then .error (.tooLong 50000 b.template.length)
      else .ok (b.bare.getD true) := rfl

/-- What is asked for a template without lone surrogates is answered, or refused with the diagnostics. -/
theorem fulfil_cases {b : TemplateBody} (hs : b.snapshot.IsScalar) (ht : b.template.isScalar = true)
    (path : Text) (bare : Bool) :
    (∃ answer, fulfil path b bare = .ok answer ∧ IsSendable answer) ∨
      fulfil path b bare = .error (.invalidTemplate (Validation.ofTemplate b.template b.snapshot bare)) := by
  unfold fulfil
  cases b.wish with
  | validation =>
    refine .inl ⟨_, rfl, isSendable_object_iff.mpr fun m hm => ?_⟩
    rcases List.mem_append.mp hm with hm | hm
    · exact isSendable_object_iff.mp (Validation.isSendable_toData hs b.template bare) m hm
    · obtain rfl := List.mem_singleton.mp hm
      have hmessages : ∀ f ∈ SyntaxCheck.faults (Escape.protect b.template), f.message.isScalar = true :=
        fun f => SyntaxCheck.isScalar_message
      simpa [SyntaxCheck.toData] using hmessages
  | resolution withTokens =>
    cases withTokens with
    | true => exact .inl ⟨_, rfl, Template.isSendable_resolveWithTokens hs ht bare⟩
    | false => exact .inl ⟨_, rfl, by simp [Template.isScalar_resolve hs ht bare]⟩
  | prompt mode =>
    rcases Prompt.build_cases ht b.snapshot mode bare with hbuild | ⟨bytes, hbuild⟩
    · exact .inr (by dsimp only; rw [hbuild])
    · refine .inl ⟨_, by dsimp only; rw [hbuild], Prompt.isSendable_toData hs ht hbuild⟩

theorem isOn_templateWork (e : TemplateEndpoint) (t : FileTree) (path requestId : Text) (body : List UInt8) :
    (templateWork e {} t path body).IsOn (.template e) path requestId body where
  refused f hf := by
    have htemplate : templateBody e path body = .error f := by
      rw [templateBody, hf]
      rfl
    rw [templateWork, htemplate]
    exact Work.result_refuse ..
  schema d hd hno := by
    have hnone : TemplateBody.ofData? e d = none := Option.not_isSome_iff_eq_none.mp hno
    have htemplate : templateBody e path body = .error .schema := by
      rw [templateBody_of_ok e hd, hnone]
      rfl
    rw [templateWork, htemplate]
    exact Work.result_refuse ..
  answered d hd hadmits hid hbody := by
    obtain ⟨b, hb⟩ := Option.isSome_iff_exists.mp hadmits
    have hread := readBytes_of_objectOf hd
    obtain ⟨ht, hs⟩ := TemplateBody.isScalar_of_ofData? (isClean_of_not_isUnforeseen hbody hread) hb
    have hlength := TemplateBody.length_template_le (fits_of_readBytes hread) hb
    have hcount := Nat.lt_of_le_of_lt hlength (length_lt_of_not_isUnforeseen hbody)
    have htemplate : templateBody e path body = .ok b := by
      rw [templateBody_of_ok e hd, hb]
      rfl
    have hrefused {w : Work} {f : Fault} (hw : w.result = .error f) (hf : f.status ≠ 500)
        (hdetail : ∀ m ∈ f.detail, IsSendable m.2) : w.IsAnswerable requestId := by
      rw [Work.IsAnswerable, Work.outcome_of_error hw]
      exact ⟨hf, isSendable_fault hid hdetail⟩
    rw [templateWork, htemplate]
    dsimp only
    rw [bareFor_default]
    split
    · rename_i f hf
      split_ifs at hf
      cases hf
      have hlimit : 50000 < 10 ^ Numeral.maxDigits :=
        Nat.lt_of_lt_of_le (by decide : 50000 < 10 ^ 5) (Nat.pow_le_pow_right (by decide) (by decide))
      exact hrefused (Work.result_refuse ..) (by simp [Fault.status]) (by simp [Fault.detail, hlimit, hcount])
    · rename_i bare _
      rcases fulfil_cases hs ht path bare with ⟨answer, hanswer, hsendable⟩ | hinvalid
      · rw [Work.IsAnswerable, Work.outcome_of_ok ((Work.result_finish ..).trans hanswer)]
        exact ⟨by simp, hsendable⟩
      · refine hrefused ((Work.result_finish ..).trans hinvalid) (by simp [Fault.status]) fun m hm => ?_
        obtain rfl := List.mem_singleton.mp hm
        exact Validation.isSendable_toData hs b.template bare

/-! ### Requests -/

/-- A request that sends a body to one of the endpoints is answered with the work on it. -/
theorem exists_isOn_of_route {e : Endpoint} (hroute : (path, Text.ofString "POST", e) ∈ routes)
    (t : FileTree) (requestId : Text) (body : List UInt8) :
    ∃ w : Work, respond {} t requestId ⟨"POST", path, body⟩ = w.reply requestId path ∧
      w.IsOn e path requestId body := by
  have hget : (Text.ofString "POST") ≠ Text.ofString "GET" := by decide
  simp only [routes, List.mem_cons, Prod.mk.injEq, hget, false_and, and_false, false_or, true_and,
    List.not_mem_nil, or_false] at hroute
  rcases hroute with ⟨rfl, rfl⟩ | ⟨rfl, rfl⟩ | ⟨rfl, rfl⟩ | ⟨rfl, rfl⟩
  · exact ⟨_, rfl, isOn_templateWork .validate t _ requestId body⟩
  · exact ⟨_, rfl, isOn_templateWork .resolve t _ requestId body⟩
  · exact ⟨_, rfl, isOn_templateWork .prompt t _ requestId body⟩
  · exact ⟨_, rfl, isOn_tokensWork _ requestId body⟩

/-- The request is refused as a bad one, for a cause with this code. -/
def Reply.IsBadRequest (r : Reply) (code : Text) : Prop :=
  r.status = 400 ∧ r.body.get? "error_code" = some (.text code)

theorem isBadRequest_of_error {w : Work} {f : Fault} (hw : w.result = .error f)
    (hid : requestId.isScalar = true) (hstatus : f.status = 400) (hdetail : f.detail = []) :
    (w.reply requestId path).IsBadRequest f.code := by
  have hsendable : IsSendable (f.toData requestId) := isSendable_fault hid (by simp [hdetail])
  have houtcome : w.outcome requestId = (f.status, f.toData requestId) := Work.outcome_of_error hw
  rw [Work.reply_of_isSent (by rw [houtcome]; exact hsendable.isSent), houtcome]
  exact ⟨hstatus, f.get?_toData_code requestId⟩

/-- **The status of a reply to a body.** A reader's refusal of what is no JSON, and any value but an object,
is answered with 400 and `INVALID_JSON`, an object that the schema does not admit with 400 and
`INVALID_ARGUMENT`. The service fails on unforeseen bodies only, and on those that are refused by the reader
for their integers or their nesting it does. The id of the request is one that the service gives it. -/
theorem respond_post_status {e : Endpoint} (hroute : (path, Text.ofString "POST", e) ∈ routes)
    (hid : requestId.isScalar = true) (t : FileTree) (body : List UInt8) :
    let r := respond {} t requestId ⟨"POST", path, body⟩
    (r.status = 500 → IsUnforeseen body) ∧
      (∀ f, readBytes body = .error f → f ≠ .malformed → r.status = 500) ∧
      (readBytes body = .error .malformed → r.IsBadRequest "INVALID_JSON") ∧
      ∀ d, readBytes body = .ok d →
        (d.isMapping = false → r.IsBadRequest "INVALID_JSON") ∧
          (d.isMapping = true → ¬ e.Admits d → r.IsBadRequest "INVALID_ARGUMENT") := by
  intro r
  obtain ⟨w, hr, hw⟩ := exists_isOn_of_route hroute t requestId body
  have hr : r = w.reply requestId path := hr
  rw [hr]
  have hnotJson (h : readBytes body = .error .malformed) : w.result = .error .notJson :=
    hw.refused _ (objectOf_of_malformed h)
  have hnotObject {d : Data} (h : readBytes body = .ok d) (hd : d.isMapping = false) :
      w.result = .error .notObject :=
    hw.refused _ (by rw [objectOf_of_ok h, hd]; rfl)
  have hobject {d : Data} (h : readBytes body = .ok d) (hd : d.isMapping = true) :
      objectOf body path = .ok d := by rw [objectOf_of_ok h, if_pos hd]
  refine ⟨fun hfails => ?_, fun f h hf => ?_, fun h => ?_, fun d h => ⟨fun hd => ?_, fun hd hno => ?_⟩⟩
  · by_contra hbody
    have hbad {f : Fault} (hf : w.result = .error f) (hstatus : f.status = 400) (hdetail : f.detail = []) :
        False := by
      have hbadRequest : (w.reply requestId path).IsBadRequest f.code :=
        isBadRequest_of_error hf hid hstatus hdetail
      exact absurd (hbadRequest.1.symm.trans hfails) (by decide)
    rcases readBytes_cases_of_not_isUnforeseen hbody with h | ⟨d, h⟩
    · exact hbad (hnotJson h) rfl rfl
    · cases hd : d.isMapping with
      | false => exact hbad (hnotObject h hd) rfl rfl
      | true =>
        by_cases hadmits : e.Admits d
        · exact (hw.answered d (hobject h hd) hadmits hid hbody).status_ne hfails
        · exact hbad (hw.schema d (hobject h hd) hadmits) rfl rfl
  · exact Work.status_of_internal (hw.refused _ (objectOf_of_refused h hf))
  · exact isBadRequest_of_error (hnotJson h) hid rfl rfl
  · exact isBadRequest_of_error (hnotObject h hd) hid rfl rfl
  · exact isBadRequest_of_error (hw.schema d (hobject h hd) hno) hid rfl rfl

/-- An object without a snapshot has no catalog. -/
theorem respond_post_status_schema :
    (respond {} [] "r" ⟨"POST", "/v1/tokens", [0x7B, 0x7D]⟩).IsBadRequest "INVALID_ARGUMENT" := by
  have hread : readBytes [0x7B, 0x7D] = .ok (.map []) := rfl
  have hroute : (Text.ofString "/v1/tokens", Text.ofString "POST", Endpoint.tokens) ∈ routes := by decide
  obtain ⟨-, -, -, hok⟩ := respond_post_status hroute (isScalar_ofString "r") [] [0x7B, 0x7D]
  exact (hok _ hread).2 rfl (by decide)

/-- The numeral of 4301 ones makes the service fail. -/
theorem respond_fails_of_longInteger :
    ¬ ∀ body, (respond {} [] "r" ⟨"POST", "/v1/validate", body⟩).status ≠ 500 := by
  intro h
  have hones : ∀ b ∈ List.replicate 4301 (0x31 : UInt8), 0x31 ≤ b ∧ b ≤ 0x39 := fun b hb => by
    rw [List.eq_of_mem_replicate hb]
    decide
  have hread := readBytes_digits hones (by rw [List.length_replicate]; decide)
  have hroute : (Text.ofString "/v1/validate", Text.ofString "POST", Endpoint.template .validate) ∈ routes := by
    decide
  obtain ⟨w, hr, hw⟩ := exists_isOn_of_route hroute [] "r" (List.replicate 4301 0x31)
  refine h (List.replicate 4301 0x31) ?_
  rw [hr]
  exact Work.status_of_internal (hw.refused _ (objectOf_of_refused hread nofun))

-- a surrogate that is written as an escape is in the resolved template too, which then has no bytes
example : (respond {} [] "r" ⟨"POST", "/v1/resolve",
    (Text.ofString "\x7b\"template\": \"\\ud800\"\x7d").flatMap Utf8.encodePoint⟩).status = 500 := by
  decide +kernel

end PromptTemplate.Service
