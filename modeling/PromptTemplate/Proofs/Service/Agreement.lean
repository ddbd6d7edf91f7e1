import PromptTemplate.Proofs.Prompt
import PromptTemplate.Proofs.Service.Course
import PromptTemplate.Proofs.Template.Strict

/-!
# Endpoints that agree

Validation, resolution and prompts are about one template and one snapshot, so their endpoints say the same
of them: a template is refused by all or by none, there is one resolved text, and a prompt that has to be
valid is refused with just what the validation reports. The one way to part is a lone surrogate in the body: a
reply that repeats it has no bytes, and the service fails where a reply that does not repeat it is sent
(`endpoints_agree`).
-/

namespace PromptTemplate

open Data Json Text

namespace Service

variable {w : Work} {r r' : Reply} {requestId path : Text} {f : Fault} {d : Data}

/-! ### Replies -/

/-- The service failed. -/
structure Reply.IsFailure (r : Reply) : Prop where
  status : r.status = 500
  code : r.body.get? "error_code" = some (.text "INTERNAL_ERROR")

/-- The same status and, where it is that of a refusal, the same code. -/
def Reply.Agrees (r r' : Reply) : Prop :=
  r.status = r'.status ∧ (r.status ≠ 200 → r.body.get? "error_code" = r'.body.get? "error_code")

theorem Reply.IsFailure.agrees (h : r.IsFailure) (h' : r'.IsFailure) : r.Agrees r' :=
  ⟨h.status.trans h'.status.symm, fun _ => h.code.trans h'.code.symm⟩

namespace Fault

theorem status_ne_ok (f : Fault) : f.status ≠ 200 := by
  cases f <;> simp [status]

/-- A refusal is sent if its details are. -/
theorem isSent_toData_iff (hid : requestId.isScalar = true) :
    IsSent (f.toData requestId) ↔ ∀ m ∈ f.detail, IsSent m.2 := by
  have htext {t : Text} (ht : t.isScalar = true) : IsSent (.text t) := (IsSendable.text ht).isSent
  have hcode : f.code.isScalar = true := by cases f <;> exact isScalar_ofString _
  have hmessage : f.message.isScalar = true := by cases f <;> exact isScalar_ofString _
  simp [toData, isSent_object_iff, htext hcode, htext hmessage, htext hid, or_imp, forall_and]

end Fault

/-- The reply is that to a request whose work came to a result. -/
inductive Reply.IsFor (r : Reply) (x : Except Fault Data) : Prop
  | reply {w : Work} {requestId path : Text} (hw : w.result = x) (hid : requestId.isScalar = true)
    (h : r = w.reply requestId path)

/-- A reply without bytes is replaced by a failure, which is logged too. -/
theorem Work.reply_of_not_isSent (h : ¬ IsSent (w.outcome requestId).2) :
    w.reply requestId path = ⟨500, (Fault.internal path).toData requestId, requestId,
      w.events ++ [.refused (.internal path) none (some .outside)]⟩ :=
  if_neg fun hsent => h (Bool.and_eq_true_iff.mp hsent)

theorem Work.isFailure_of_not_isSent (h : ¬ IsSent (w.outcome requestId).2) :
    (w.reply requestId path).IsFailure := by
  rw [reply_of_not_isSent h]
  exact ⟨rfl, Fault.get?_toData_code ..⟩

namespace Reply.IsFor

/-- An answer is sent with its body, or the service fails. -/
theorem cases_of_ok (h : r.IsFor (.ok d)) :
    (IsSent d ∧ r.status = 200 ∧ r.body = d) ∨ (¬ IsSent d ∧ r.IsFailure) := by
  cases h with
  | @reply w requestId path hw hid h =>
    have houtcome : w.outcome requestId = (200, d) := Work.outcome_of_ok hw
    subst h
    by_cases hsent : IsSent d
    · refine .inl ⟨hsent, ?_⟩
      rw [Work.reply_of_isSent (by rwa [houtcome]), houtcome]
      exact ⟨rfl, rfl⟩
    · exact .inr ⟨hsent, Work.isFailure_of_not_isSent (by rwa [houtcome])⟩

/-- A refusal is sent as it is, whatever the id of the request, or the service fails. -/
theorem cases_of_error (h : r.IsFor (.error f)) :
    ((∀ m ∈ f.detail, IsSent m.2) ∧ r.status = f.status ∧ ∃ requestId, r.body = f.toData requestId) ∨
      ((¬ ∀ m ∈ f.detail, IsSent m.2) ∧ r.IsFailure) := by
  cases h with
  | @reply w requestId path hw hid h =>
    have houtcome : w.outcome requestId = (f.status, f.toData requestId) := Work.outcome_of_error hw
    have hiff := Fault.isSent_toData_iff (f := f) hid
    subst h
    by_cases hsent : IsSent (f.toData requestId)
    · refine .inl ⟨hiff.mp hsent, ?_⟩
      rw [Work.reply_of_isSent (by rwa [houtcome]), houtcome]
      exact ⟨rfl, requestId, rfl⟩
    · refine .inr ⟨fun hdetail => hsent (hiff.mpr hdetail), ?_⟩
      exact Work.isFailure_of_not_isSent (by rwa [houtcome])

theorem isFailure_of_internal (h : r.IsFor (.error (.internal path))) : r.IsFailure := by
  rcases h.cases_of_error with ⟨-, hstatus, requestId, hbody⟩ | ⟨-, hfails⟩
  · exact ⟨hstatus, hbody ▸ Fault.get?_toData_code ..⟩
  · exact hfails

theorem status_ne_ok_of_error (h : r.IsFor (.error f)) : r.status ≠ 200 := by
  rcases h.cases_of_error with ⟨-, hstatus, -⟩ | ⟨-, hfails⟩
  · exact hstatus ▸ f.status_ne_ok
  · exact hfails.status ▸ by decide

/-- A reply with status 200 is an answer. -/
theorem eq_ok_of_status {x : Except Fault Data} (h : r.IsFor x) (hstatus : r.status = 200) :
    x = .ok r.body := by
  cases x with
  | error f => exact absurd hstatus h.status_ne_ok_of_error
  | ok d =>
    rcases h.cases_of_ok with ⟨-, -, hbody⟩ | ⟨-, hfails⟩
    · rw [hbody]
    · exact absurd (hstatus.symm.trans hfails.status) (by decide)

/-- One cause gives one status and one code. -/
theorem agrees_of_error (h : r.IsFor (.error f)) (h' : r'.IsFor (.error f)) : r.Agrees r' := by
  rcases h.cases_of_error with ⟨hsent, hstatus, id, hbody⟩ | ⟨hlost, hfails⟩ <;>
    rcases h'.cases_of_error with ⟨hsent', hstatus', id', hbody'⟩ | ⟨hlost', hfails'⟩
  · refine ⟨hstatus.trans hstatus'.symm, fun _ => ?_⟩
    rw [hbody, hbody', Fault.get?_toData_code, Fault.get?_toData_code]
  · exact absurd hsent hlost'
  · exact absurd hsent' hlost
  · exact hfails.agrees hfails'

end Reply.IsFor

/-! ### What is asked for -/

section Fulfil

variable {b : TemplateBody} {bare : Bool} {wish : Wish}

theorem fulfil_prompt_of_not_isValid (path : Text)
    (h : (Validation.ofTemplate b.template b.snapshot bare).isValid = false) :
    fulfil path { b with wish := .prompt .error } bare =
      .error (.invalidTemplate (Validation.ofTemplate b.template b.snapshot bare)) := by
  simp only [fulfil, Prompt.build_of_not_isValid h]

theorem fulfil_prompt_of_isValid (path : Text) {mode : ValidationMode}
    (h : mode = .error → (Validation.ofTemplate b.template b.snapshot bare).isValid = true) :
    fulfil path { b with wish := .prompt mode } bare = .error (.internal path) ∨
      ∃ p : Prompt, fulfil path { b with wish := .prompt mode } bare = .ok p.toData ∧
        p.text = (Template.resolveWithTokens b.template b.snapshot bare).text ∧
        p.emptyTokens = (Template.resolveWithTokens b.template b.snapshot bare).emptyTokens ∧
        p.missingTokens = (Template.resolveWithTokens b.template b.snapshot bare).missingTokens := by
  rcases Prompt.build_of_isValid h with ⟨f, hbuild⟩ | ⟨p, hbuild, hp⟩
  · exact .inl (by simp only [fulfil, hbuild])
  · exact .inr ⟨p, by simp only [fulfil, hbuild], hp⟩

/-- What asks for no valid template, or has one, is answered, or the service fails. -/
theorem fulfil_of_isValid (path : Text) (b : TemplateBody) (bare : Bool)
    (h : wish = .prompt .error → (Validation.ofTemplate b.template b.snapshot bare).isValid = true) :
    (∃ d, fulfil path { b with wish := wish } bare = .ok d) ∨
      fulfil path { b with wish := wish } bare = .error (.internal path) := by
  cases wish with
  | validation => exact .inl ⟨_, rfl⟩
  | resolution withTokens => cases withTokens <;> exact .inl ⟨_, rfl⟩
  | prompt mode =>
    have hmode : mode = .error → (Validation.ofTemplate b.template b.snapshot bare).isValid = true :=
      fun hmode => h (congrArg Wish.prompt hmode)
    rcases fulfil_prompt_of_isValid path hmode with hfails | ⟨p, hp, -⟩
    · exact .inr hfails
    · exact .inl ⟨_, hp⟩

end Fulfil

/-! ### Replies on one template -/

/-- A text in the value of a body has a lone surrogate. -/
def HasLoneSurrogate (body : List UInt8) : Prop :=
  ∃ d t, readBytes body = .ok d ∧ Part (.text t) d ∧ t.isScalar = false

/-- The reply of an endpoint to the body with the members that express a wish. The id of the request is one
that the service gives it. -/
inductive IsAnswer (env : Environment) (t : FileTree) (body : List UInt8) (wish : Wish) (r : Reply) : Prop
  | respond {own : List (Text × Data)} {body' : List UInt8} {requestId : Text} (hown : Expresses wish own)
    (hbody : Extends own body body') (hid : requestId.isScalar = true)
    (h : r = respond env t requestId ⟨"POST", wish.endpoint.path, body'⟩)

/-- The reply shows a resolved template as the wish asks for it. -/
def Reply.Shows (r : Reply) (wish : Wish) (x : Resolved) : Prop :=
  let ListsTokens := r.body.get? "empty_tokens" = some (.texts x.emptyTokens) ∧
    r.body.get? "missing_tokens" = some (.texts x.missingTokens)
  match wish with
  | .validation => True
  | .resolution withTokens =>
    r.body.get? "resolved" = some (.text x.text) ∧ (withTokens = true → ListsTokens)
  | .prompt _ => r.body.get? "prompt" = some (.text x.text) ∧ ListsTokens

/-- The reply reports a validation, and as faults of syntax the messages of the diagnostics without a
token. -/
structure Reply.Reports (r : Reply) (v : Validation) : Prop where
  valid : r.body.get? "valid" = some (.bool v.isValid)
  errors : r.body.get? "errors" = some (.list (v.errors.map Diagnostic.toData))
  syntaxErrors : (r.body.get? "syntax").bind (Data.get? "errors") =
    some (.texts ((v.errors.filter fun d => d.token.isNone).map Diagnostic.message))

section Answers

variable {env : Environment} {t : FileTree} {body : List UInt8} {wish wish' : Wish} {b : TemplateBody}
  {bare : Bool}

theorem isScalar_of_admitted {e : TemplateEndpoint} (hclean : ¬ HasLoneSurrogate body)
    (h : admitted e env t path body = .ok (b, bare)) :
    b.snapshot.IsScalar ∧ b.template.isScalar = true := by
  obtain ⟨d, hread, hb⟩ := exists_of_admitted h
  have hd : d.IsClean := by
    refine ⟨fun u hu => ?_, fun bs hbs => ?_⟩
    · by_contra hs
      exact hclean ⟨d, u, hread, hu, Bool.eq_false_iff.mpr hs⟩
    · cases (fits_of_readBytes hread).part hbs
  exact (TemplateBody.isScalar_of_ofData? hd hb).symm

theorem IsAnswer.exists_course (h : IsAnswer env t body wish r) (hcommon : IsCommon body) :
    ∃ x, Alike x ((admitted .validate env t [] body).map fun a => ({ a.1 with wish := wish }, a.2)) ∧
      r.IsFor (x.bind fun a => fulfil wish.endpoint.path a.1 a.2) := by
  cases h with
  | respond hown hbody hid h =>
    rw [respond_templateWork] at h
    exact ⟨_, hbody.admitted_alike hown hcommon env t [] wish.endpoint.path,
      .reply (result_templateWork ..) hid h⟩

/-- Where the body is refused, the reply is a refusal for the same cause. -/
theorem IsAnswer.of_refused (h : IsAnswer env t body wish r) (hcommon : IsCommon body)
    (hcourse : admitted .validate env t [] body = .error f) :
    r.IsFor (.error f) ∨ (∃ path, f = .internal path) ∧ r.IsFailure := by
  obtain ⟨x, hx, hr⟩ := h.exists_course hcommon
  rw [hcourse] at hx
  change Alike x (.error f) at hx
  cases hx with
  | refused => exact .inl hr
  | failed path path' => exact .inr ⟨⟨path', rfl⟩, hr.isFailure_of_internal⟩

/-- Where the body is admitted, the reply is to what was asked for. -/
theorem IsAnswer.of_admitted (h : IsAnswer env t body wish r) (hcommon : IsCommon body)
    (hcourse : admitted .validate env t [] body = .ok (b, bare)) :
    r.IsFor (fulfil wish.endpoint.path { b with wish := wish } bare) := by
  obtain ⟨x, hx, hr⟩ := h.exists_course hcommon
  rw [hcourse] at hx
  change Alike x (.ok ({ b with wish := wish }, bare)) at hx
  cases hx with
  | ok => exact hr

/-- A reply to what can be fulfilled is an answer, unless the service fails on a lone surrogate. -/
theorem IsAnswer.status_of_admitted (h : IsAnswer env t body wish r) (hcommon : IsCommon body)
    (hcourse : admitted .validate env t [] body = .ok (b, bare))
    (hvalid : wish = .prompt .error → (Validation.ofTemplate b.template b.snapshot bare).isValid = true) :
    r.status = 200 ∨ HasLoneSurrogate body ∧ r.IsFailure := by
  have hr := h.of_admitted hcommon hcourse
  have hpath := fulfil_of_isValid wish.endpoint.path b bare hvalid
  by_cases hlone : HasLoneSurrogate body
  · rcases hpath with ⟨d, hd⟩ | hfails
    · rw [hd] at hr
      rcases hr.cases_of_ok with ⟨-, hstatus, -⟩ | ⟨-, hfails⟩
      · exact .inl hstatus
      · exact .inr ⟨hlone, hfails⟩
    · rw [hfails] at hr
      exact .inr ⟨hlone, hr.isFailure_of_internal⟩
  · -- whatever is said of a body without lone surrogates can be sent
    obtain ⟨hs, ht⟩ := isScalar_of_admitted hlone hcourse
    rcases fulfil_cases (b := { b with wish := wish }) hs ht wish.endpoint.path bare with
      ⟨d, hd, hsendable⟩ | hinvalid
    · rw [hd] at hr
      rcases hr.cases_of_ok with ⟨-, hstatus, -⟩ | ⟨hlost, -⟩
      · exact .inl hstatus
      · exact absurd hsendable.isSent hlost
    · rw [hinvalid] at hpath
      rcases hpath with ⟨d, hd⟩ | hfails
      · cases hd
      · cases hfails

/-- Two replies that ask for no valid template agree, or the service fails for one of them alone. -/
theorem IsAnswer.agrees (h : IsAnswer env t body wish r) (h' : IsAnswer env t body wish' r')
    (hcommon : IsCommon body) (hwish : wish ≠ .prompt .error) (hwish' : wish' ≠ .prompt .error) :
    r.Agrees r' ∨
      HasLoneSurrogate body ∧ (r.status = 200 ∧ r'.IsFailure ∨ r.IsFailure ∧ r'.status = 200) := by
  cases hcourse : admitted .validate env t [] body with
  | error f =>
    left
    rcases h.of_refused hcommon hcourse with hr | ⟨⟨path, rfl⟩, hr⟩ <;>
      rcases h'.of_refused hcommon hcourse with hr' | ⟨hpath, hr'⟩
    · exact hr.agrees_of_error hr'
    · obtain ⟨path, rfl⟩ := hpath
      exact hr.isFailure_of_internal.agrees hr'
    · exact hr.agrees hr'.isFailure_of_internal
    · exact hr.agrees hr'
  | ok a =>
    obtain ⟨b, bare⟩ := a
    have hr := h.status_of_admitted hcommon hcourse fun heq => absurd heq hwish
    have hr' := h'.status_of_admitted hcommon hcourse fun heq => absurd heq hwish'
    rcases hr with hr | ⟨hlone, hr⟩ <;> rcases hr' with hr' | ⟨hlone', hr'⟩
    · exact .inl ⟨hr.trans hr'.symm, fun hne => absurd hr hne⟩
    · exact .inr ⟨hlone', .inl ⟨hr, hr'⟩⟩
    · exact .inr ⟨hlone, .inr ⟨hr, hr'⟩⟩
    · exact .inl (hr.agrees hr')

/-- An answer shows the resolved template of the body. -/
theorem shows_of_fulfil (h : fulfil path { b with wish := wish } bare = .ok r.body) :
    r.Shows wish (Template.resolveWithTokens b.template b.snapshot bare) := by
  cases wish with
  | validation => trivial
  | resolution withTokens =>
    cases withTokens with
    | true =>
      have hbody : r.body = (Template.resolveWithTokens b.template b.snapshot bare).toData :=
        (Except.ok.inj h).symm
      simp [Reply.Shows, hbody, Resolved.toData, Data.get?_object]
    | false =>
      have hbody : r.body = .object [("resolved", .text (Template.resolve b.template b.snapshot bare))] :=
        (Except.ok.inj h).symm
      simp [Reply.Shows, hbody, Data.get?_object, Template.resolveWithTokens]
  | prompt mode =>
    by_cases hvalid : mode = .error → (Validation.ofTemplate b.template b.snapshot bare).isValid = true
    · rcases fulfil_prompt_of_isValid path hvalid with hfails | ⟨p, hp, htext, hempty, hmissing⟩
      · rw [hfails] at h
        cases h
      · have hbody : r.body = p.toData := Except.ok.inj (h.symm.trans hp)
        simp [Reply.Shows, hbody, Prompt.toData, Data.get?_object, htext, hempty, hmissing]
    · obtain ⟨rfl, hinvalid⟩ := Classical.not_imp.mp hvalid
      rw [fulfil_prompt_of_not_isValid path (Bool.eq_false_iff.mpr hinvalid)] at h
      cases h

/-- What a validation is answered with. -/
theorem IsAnswer.reports (h : IsAnswer env t body .validation r) (hcommon : IsCommon body)
    (hcourse : admitted .validate env t [] body = .ok (b, bare)) (hstatus : r.status = 200) :
    r.Reports (Validation.ofTemplate b.template b.snapshot bare) ∧
      IsSent (Validation.ofTemplate b.template b.snapshot bare).toData := by
  have hr := h.of_admitted hcommon hcourse
  generalize hv : Validation.ofTemplate b.template b.snapshot bare = v
  let faults := SyntaxCheck.faults (Escape.protect b.template)
  have hfulfil : fulfil (Wish.endpoint .validation).path { b with wish := .validation } bare =
      .ok (.object (v.members ++ [("syntax", SyntaxCheck.toData faults)])) := hv ▸ rfl
  rw [hfulfil] at hr
  rcases hr.cases_of_ok with ⟨hsent, -, hbody⟩ | ⟨-, hfails⟩
  · refine ⟨⟨?_, ?_, ?_⟩, ?_⟩
    · simp [hbody, Validation.members, Data.get?_object]
    · simp [hbody, Validation.members, Data.get?_object]
    · have hmessages : v.errors.filter (fun d => d.token.isNone) = faults.map .ofSyntax :=
        hv ▸ Validation.filter_isNone_errors b.template b.snapshot bare
      rw [hmessages, List.map_map]
      simp [hbody, Validation.members, SyntaxCheck.toData, Data.get?_object, Diagnostic.ofSyntax,
        Function.comp_def]
    · exact isSent_object_iff.mpr fun m hm => isSent_object_iff.mp hsent m (List.mem_append_left _ hm)
  · exact absurd (hstatus.symm.trans hfails.status) (by decide)

/-- **The endpoints for templates agree.** Of one body, each with the members that express a wish, all that
ask for no valid template answer with one status and, where they refuse, one code. The answers are about one
template: it has one resolution, and a prompt that has to be valid is refused just where the validation
reports errors, with what it reports. A reply that cannot be sent for a lone surrogate in the body is the one
exception. -/
theorem endpoints_agree (env : Environment) (t : FileTree) {body : List UInt8} (hcommon : IsCommon body) :
    (∀ wish wish' r r', wish ≠ .prompt .error → wish' ≠ .prompt .error → IsAnswer env t body wish r →
      IsAnswer env t body wish' r' → r.Agrees r' ∨
        HasLoneSurrogate body ∧ (r.status = 200 ∧ r'.IsFailure ∨ r.IsFailure ∧ r'.status = 200)) ∧
    ∃ template s bare,
      (∀ wish r, IsAnswer env t body wish r → r.status = 200 →
        r.Shows wish (Template.resolveWithTokens template s bare)) ∧
      let v := Validation.ofTemplate template s bare
      ∀ r, IsAnswer env t body .validation r → r.status = 200 → r.Reports v ∧
        ∀ p, IsAnswer env t body (.prompt .error) p →
          (v.isValid = true → p.status = 200 ∨ HasLoneSurrogate body ∧ p.IsFailure) ∧
          (v.isValid = false → p.status = 422 ∧
            p.body.get? "error_code" = some (.text "TEMPLATE_INVALID") ∧
            (p.body.get? "detail").bind (Data.get? "validation") = some v.toData) := by
  refine ⟨fun wish wish' r r' hwish hwish' h h' => h.agrees h' hcommon hwish hwish', ?_⟩
  cases hcourse : admitted .validate env t [] body with
  | error f =>
    have hrefused {wish : Wish} {r : Reply} (h : IsAnswer env t body wish r) : r.status ≠ 200 := by
      rcases h.of_refused hcommon hcourse with hr | ⟨-, hfails⟩
      · exact hr.status_ne_ok_of_error
      · exact hfails.status ▸ by decide
    exact ⟨[], {}, true, fun wish r h hstatus => absurd hstatus (hrefused h),
      fun r h hstatus => absurd hstatus (hrefused h)⟩
  | ok a =>
    obtain ⟨b, bare⟩ := a
    refine ⟨b.template, b.snapshot, bare, fun wish r h hstatus => ?_, fun r h hstatus => ?_⟩
    · exact shows_of_fulfil ((h.of_admitted hcommon hcourse).eq_ok_of_status hstatus)
    obtain ⟨hreports, hsent⟩ := h.reports hcommon hcourse hstatus
    refine ⟨hreports, fun p hp => ⟨fun hvalid => ?_, fun hinvalid => ?_⟩⟩
    · exact hp.status_of_admitted hcommon hcourse fun _ => hvalid
    · have hr := hp.of_admitted hcommon hcourse
      rw [fulfil_prompt_of_not_isValid _ hinvalid] at hr
      rcases hr.cases_of_error with ⟨-, hstatus, requestId, hbody⟩ | ⟨hlost, -⟩
      · rw [hbody]
        exact ⟨hstatus, Fault.get?_toData_code .., by simp [Fault.toData, Fault.detail, Data.get?_object]⟩
      · -- the report was sent with the validation, so the refusal with the same report is sent
        exact absurd (by simpa [Fault.detail] using hsent) hlost

end Answers

/-- The bytes of an object. -/
def bodyOf (members : List (String × Data)) : List UInt8 :=
  (write .compact (.object members)).flatMap Utf8.encodePoint

/-- The bytes of an object may be sent to an endpoint with the endpoint's own members in front. -/
theorem isAnswer_bodyOf (env : Environment) (t : FileTree) {wish : Wish} (own members : List (String × Data))
    (hown : Expresses wish (own.map fun m => (Text.ofString m.1, m.2)))
    (h : readBytes (bodyOf members) = .ok (.object members))
    (h' : readBytes (bodyOf (own ++ members)) = .ok (.object (own ++ members)))
    (hid : requestId.isScalar = true) :
    IsAnswer env t (bodyOf members) wish
      (respond env t requestId ⟨"POST", wish.endpoint.path, bodyOf (own ++ members)⟩) := by
  refine .respond hown (.object h h' fun key => ?_) hid rfl
  rw [List.map_append, Table.get?, Table.get?, Table.get?, List.find?_append, Option.map_or]

/-- A template that names what is not there is answered by two endpoints and refused by the third. -/
theorem endpoints_agree_missing :
    let body := bodyOf [("template", .text "{{a}}")]
    let body' := bodyOf [("include_metadata", .bool true), ("template", .text "{{a}}")]
    let v := respond {} [] "1" ⟨"POST", (Wish.endpoint .validation).path, body⟩
    let r := respond {} [] "2" ⟨"POST", (Wish.endpoint (.resolution true)).path, body'⟩
    let p := respond {} [] "3" ⟨"POST", (Wish.endpoint (.prompt .error)).path, body⟩
    IsCommon body ∧ v.Agrees r ∧ (∃ x, r.Shows (.resolution true) x) ∧
      ∃ report : Validation, v.Reports report ∧ report.isValid = false ∧ p.status = 422 ∧
        (p.body.get? "detail").bind (Data.get? "validation") = some report.toData := by
  intro body body' v r p
  have hread : readBytes body = .ok (.object [("template", .text "{{a}}")]) := by
    refine readBytes_write (.map ?_ (by decide)) (by decide +kernel)
    simpa using IsKept.text _
  have hread' : readBytes body' =
      .ok (.object ([("include_metadata", .bool true)] ++ [("template", .text "{{a}}")])) := by
    refine readBytes_write (.map ?_ (by decide)) (by decide +kernel)
    simpa using ⟨IsKept.bool _, IsKept.text _⟩
  have hcommon : IsCommon body := by
    intro ms hms
    obtain rfl : _ = ms := Data.map.inj (Except.ok.inj (hread.symm.trans hms))
    have hget (name : String) (hname : name ≠ "template") :
        Data.get? name (.object [("template", .text "{{a}}")]) = none := by
      simp [Data.get?_object, Ne.symm hname]
    exact ⟨hget _ (by decide), hget _ (by decide)⟩
  have hv : IsAnswer {} [] body .validation v :=
    isAnswer_bodyOf {} [] [] [("template", .text "{{a}}")] .validation hread hread (isScalar_ofString "1")
  have hr : IsAnswer {} [] body (.resolution true) r :=
    isAnswer_bodyOf {} [] [("include_metadata", .bool true)] [("template", .text "{{a}}")] (.metadata rfl)
      hread hread' (isScalar_ofString "2")
  have hp : IsAnswer {} [] body (.prompt .error) p :=
    isAnswer_bodyOf {} [] [] [("template", .text "{{a}}")] .prompt hread hread (isScalar_ofString "3")
  have hanswered : v.status = 200 ∧ r.status = 200 ∧ p.status = 422 := by decide +kernel
  obtain ⟨hvalidated, hresolved, hrefused⟩ := hanswered
  obtain ⟨hagree, template, s, bare, hshows, hreport⟩ := endpoints_agree {} [] hcommon
  obtain ⟨hreports, hprompt⟩ := hreport v hv hvalidated
  refine ⟨hcommon, ?_, ⟨_, hshows _ r hr hresolved⟩, Validation.ofTemplate template s bare, hreports, ?_⟩
  · have hagrees := hagree .validation (.resolution true) v r nofun nofun hv hr
    rcases hagrees with hagrees | ⟨-, ⟨-, hfails⟩ | ⟨hfails, -⟩⟩
    · exact hagrees
    · exact absurd (hresolved.symm.trans hfails.status) (by decide)
    · exact absurd (hvalidated.symm.trans hfails.status) (by decide)
  · obtain ⟨hvalid, hinvalid⟩ := hprompt p hp
    cases hreported : (Validation.ofTemplate template s bare).isValid with
    | true =>
      rcases hvalid hreported with hstatus | ⟨-, hfails⟩
      · exact absurd (hrefused.symm.trans hstatus) (by decide)
      · exact absurd (hrefused.symm.trans hfails.status) (by decide)
    | false => exact ⟨rfl, hrefused, (hinvalid hreported).2.2⟩

/-- A field whose value is a lone surrogate: the template is valid, and the text that it resolves to has no
bytes. -/
theorem resolve_fails_of_loneSurrogate :
    let body := (Text.ofString "\x7b\"template\":\"{{field:k}}\",\"snapshot\":\x7b\"fields\":[" ++
      Text.ofString "\x7b\"key\":\"k\",\"label\":\"K\",\"value\":\"\\ud800\",\"sectionId\":\"s\"\x7d" ++
      Text.ofString "]\x7d\x7d").flatMap Utf8.encodePoint
    let v := respond {} [] "1" ⟨"POST", "/v1/validate", body⟩
    let r := respond {} [] "2" ⟨"POST", "/v1/resolve", body⟩
    v.status = 200 ∧ r.status = 500 ∧ ¬ v.Agrees r := by
  intro body v r
  have hstatus : v.status = 200 ∧ r.status = 500 := by decide +kernel
  obtain ⟨hv, hr⟩ := hstatus
  refine ⟨hv, hr, fun hagrees => ?_⟩
  exact absurd (hv.symm.trans (hagrees.1.trans hr)) (by decide)

end Service

end PromptTemplate
