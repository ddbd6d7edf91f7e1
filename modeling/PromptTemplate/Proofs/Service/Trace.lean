import PromptTemplate.Proofs.File.Message
import PromptTemplate.Proofs.Service.Agreement

/-!
# What is logged of a request

Work on a template begins with an event if the template is admitted (`IsAdmitted`), and it ends with one that
tells the status it came to (`Event.Concludes`). Where the reply to it has no bytes, the service fails, and the
event that says so comes after the one of the reply that was not sent: such a request is concluded twice
(`Reply.IsConcludedBy`, `resolve_concluded_twice`).
-/

namespace PromptTemplate.Service

open Data Json Text

/-! ### Events -/

/-- The event with which work on a template begins: it counts the tokens that get a value in the resolved
template. -/
structure Event.Announces (ev : Event) (template : Text) (bare : Bool) : Prop where
  event : ev.toData.get? "event" = some (.text "start")
  templateChars : ev.toData.get? "template_chars" = some (.int template.length)
  tokenCount : ev.toData.get? "token_count" =
    some (.int (Template.cut bare (Escape.protect template)).hits.length)
  permissive : ev.toData.get? "permissive" = some (.bool bare)

/-- The event that tells how a request was answered. -/
structure Event.Concludes (ev : Event) (r : Reply) : Prop where
  event : ev.toData.get? "event" = some (.text (if r.status = 200 then "done" else "error"))
  status : ev.toData.get? "status_code" = some (.int r.status)
  code : r.status ≠ 200 → ev.toData.get? "error_code" = r.body.get? "error_code" ∧
    ∃ code, r.body.get? "error_code" = some (.text code)

theorem announces_startEvent (e : TemplateEndpoint) (template : Text) (bare : Bool) :
    (startEvent e template bare).Announces template bare := by
  have hcount : (Template.occurrences bare (Escape.protect template)).length =
      (Template.cut bare (Escape.protect template)).hits.length := by
    rw [← Template.map_token_occurrences, List.length_map]
  constructor <;> simp [startEvent, Event.toData, Data.get?_object, hcount]

theorem concludes_done (e : Endpoint) (d : Data) (requestId : Text) :
    (Event.done e).Concludes { status := 200, body := d, requestId } := by
  constructor
  · simp [Event.toData, Data.get?_object]
  · simp [Event.toData, Data.get?_object]
  · intro h
    exact absurd rfl h

theorem concludes_refused (f : Fault) (e : Option Endpoint) (stage : Option Stage) (requestId : Text) :
    (Event.refused f e stage).Concludes { status := f.status, body := f.toData requestId, requestId } := by
  constructor
  · simp [Event.toData, Data.get?_object, f.status_ne_ok]
  · simp [Event.toData, Data.get?_object]
  · intro _
    refine ⟨?_, f.code, f.get?_toData_code requestId⟩
    rw [f.get?_toData_code]
    simp [Event.toData, Data.get?_object]

/-! ### The events of work -/

/-- The reply that work came to, before it is known to have bytes. -/
def Work.draft (w : Work) (requestId : Text) : Reply where
  status := (w.outcome requestId).1
  body := (w.outcome requestId).2
  requestId := requestId

/-- The last event of some work, after those given, tells what it came to. -/
def Work.Tells (w : Work) (before : List Event) : Prop :=
  ∃ ev, w.events = before ++ [ev] ∧ ∀ requestId, ev.Concludes (w.draft requestId)

theorem Work.tells_refuse (before : List Event) (f : Fault) (e : Endpoint) (stage : Option Stage) :
    (Work.refuse before f e stage).Tells before := by
  have hresult : (Work.refuse before f e stage).result = .error f := Work.result_refuse ..
  have hdraft : ∀ requestId, (Work.refuse before f e stage).draft requestId =
      { status := f.status, body := f.toData requestId, requestId } := by
    intro requestId
    rw [draft, outcome_of_error hresult]
  cases f with
  | internal path =>
    exact ⟨_, rfl, fun requestId => (hdraft requestId) ▸ concludes_refused _ _ _ requestId⟩
  | notJson | notObject | schema | settings | tooLong | invalidTemplate =>
    exact ⟨_, rfl, fun requestId => (hdraft requestId) ▸ concludes_refused _ _ _ requestId⟩

theorem Work.tells_finish (before : List Event) (r : Except Fault Data) (e : Endpoint) (stage : Option Stage) :
    (Work.finish before r e stage).Tells before := by
  cases r with
  | error f => exact tells_refuse before f e stage
  | ok d =>
    refine ⟨.done e, rfl, fun requestId => ?_⟩
    exact concludes_done e d requestId

/-- The events that conclude a request: one for the reply, or two where the reply that the work came to has no
bytes and the service fails instead. -/
inductive Reply.IsConcludedBy (r draft : Reply) : List Event → Prop
  | once {ev : Event} (hsent : IsSent draft.body) (h : ev.Concludes r) : IsConcludedBy r draft [ev]
  | twice {early ev : Event} (hlost : ¬ IsSent draft.body) (hearly : early.Concludes draft)
      (hfails : r.IsFailure) (h : ev.Concludes r) : IsConcludedBy r draft [early, ev]

/-- **A reply is concluded as the work was**, and once more if it cannot be sent. -/
theorem Work.Tells.reply {w : Work} {before : List Event} (h : w.Tells before) (requestId path : Text) :
    ∃ after, (w.reply requestId path).events = before ++ after ∧
      (w.reply requestId path).IsConcludedBy (w.draft requestId) after := by
  obtain ⟨ev, hevents, hev⟩ := h
  by_cases hsent : IsSent (w.outcome requestId).2
  · refine ⟨[ev], ?_, .once hsent ?_⟩
    · rw [reply_of_isSent hsent, hevents]
    · rw [reply_of_isSent hsent]
      exact ⟨(hev requestId).event, (hev requestId).status, (hev requestId).code⟩
  · refine ⟨[ev, .refused (.internal path) none (some .outside)], ?_, ?_⟩
    · rw [reply_of_not_isSent hsent, hevents, List.append_assoc]
      rfl
    · have hlast := concludes_refused (.internal path) none (some .outside) requestId
      refine .twice hsent (hev requestId) (isFailure_of_not_isSent hsent) ?_
      rw [reply_of_not_isSent hsent]
      exact ⟨hlast.event, hlast.status, hlast.code⟩

/-! ### Admitted templates -/

section Admitted

variable {e : TemplateEndpoint} {env : Environment} {t : FileTree} {requestId : Text} {body : List UInt8}
  {b : TemplateBody} {bare : Bool}

/-- The body is read, the settings are loaded and the template is within the limit; bare tokens count as the
body says, or else as the settings say. -/
def IsAdmitted (e : TemplateEndpoint) (env : Environment) (t : FileTree) (body : List UInt8) (b : TemplateBody)
    (bare : Bool) : Prop :=
  ∃ s, templateBody e e.path body = .ok b ∧ env.settings t e.path = .ok s ∧
    (b.template.length : Int) ≤ env.limit s ∧ bare = b.bare.getD s.bareTokens

theorem IsAdmitted.bareFor_eq (h : IsAdmitted e env t body b bare) : bareFor env t e.path b = .ok bare := by
  obtain ⟨s, -, hsettings, hlimit, rfl⟩ := h
  rw [bareFor, hsettings]
  exact if_neg (Int.not_lt.mpr hlimit)

theorem isAdmitted_of_bareFor (hbody : templateBody e e.path body = .ok b)
    (h : bareFor env t e.path b = .ok bare) : IsAdmitted e env t body b bare := by
  obtain ⟨s, hsettings, hlimit⟩ := exists_of_bind_eq_ok h
  dsimp only at hlimit
  split_ifs at hlimit with hlong
  cases hlimit
  exact ⟨s, hbody, hsettings, Int.not_lt.mp hlong, rfl⟩

/-- Work on a template is told after its beginning, if the template is admitted, and otherwise at once. -/
theorem exists_tells_templateWork (e : TemplateEndpoint) (env : Environment) (t : FileTree)
    (body : List UInt8) : ∃ before, (templateWork e env t e.path body).Tells before ∧
      (∀ b bare, IsAdmitted e env t body b bare → ∃ ev, before = [ev] ∧ ev.Announces b.template bare) ∧
      ((∀ b bare, ¬ IsAdmitted e env t body b bare) → before = []) := by
  rw [templateWork]
  cases hbody : templateBody e e.path body with
  | error f =>
    refine ⟨[], Work.tells_refuse .., fun b bare h => ?_, fun _ => rfl⟩
    obtain ⟨s, hb, -⟩ := h
    rw [hbody] at hb
    cases hb
  | ok b =>
    dsimp only
    cases hbare : bareFor env t e.path b with
    | error f =>
      refine ⟨[], Work.tells_refuse .., fun b' bare h => ?_, fun _ => rfl⟩
      obtain ⟨s, hb, -⟩ := id h
      cases hbody.symm.trans hb
      cases hbare.symm.trans h.bareFor_eq
    | ok bare =>
      refine ⟨[startEvent e b.template bare], Work.tells_finish .., fun b' bare' h => ?_, fun hno => ?_⟩
      · obtain ⟨s, hb, -⟩ := id h
        cases hbody.symm.trans hb
        cases hbare.symm.trans h.bareFor_eq
        exact ⟨_, rfl, announces_startEvent e b.template bare⟩
      · exact absurd (isAdmitted_of_bareFor hbody hbare) (hno b bare)

end Admitted

/-! ### Replies that can be sent -/

section Sent

variable {e : TemplateEndpoint} {env : Environment} {t : FileTree} {requestId : Text} {body : List UInt8}
  {b : TemplateBody} {bare : Bool} {f : Fault}

/-- The details of a refusal can be sent. -/
def Fault.IsSendable (f : Fault) : Prop := ∀ m ∈ f.detail, Json.IsSendable m.2

theorem Fault.isSendable_of_detail_eq_nil (h : f.detail = []) : f.IsSendable := by
  intro m hm
  rw [h] at hm
  cases hm

theorem TemplateEndpoint.isScalar_path (e : TemplateEndpoint) : e.path.isScalar = true := by
  cases e <;> rfl

theorem isSendable_internal (e : TemplateEndpoint) : (Fault.internal e.path).IsSendable := by
  intro m hm
  rw [List.mem_singleton.mp hm]
  exact .text e.isScalar_path

theorem isSendable_of_objectOf (h : objectOf body e.path = .error f) : f.IsSendable := by
  unfold objectOf at h
  split at h
  · cases h
    exact Fault.isSendable_of_detail_eq_nil rfl
  · cases h
    exact isSendable_internal e
  · cases h
    exact isSendable_internal e
  · split_ifs at h
    cases h
    exact Fault.isSendable_of_detail_eq_nil rfl

theorem isSendable_of_templateBody (h : templateBody e e.path body = .error f) : f.IsSendable := by
  cases hobject : objectOf body e.path with
  | error f' =>
    rw [templateBody, hobject] at h
    cases h
    exact isSendable_of_objectOf hobject
  | ok d =>
    rw [templateBody_of_ok e hobject] at h
    cases hb : TemplateBody.ofData? e d with
    | none =>
      rw [hb] at h
      cases h
      exact Fault.isSendable_of_detail_eq_nil rfl
    | some b =>
      rw [hb] at h
      cases h

theorem isSendable_of_settings (hpath : ∀ p, env.settingsPath = some p → p.isScalar = true)
    (h : env.settings t e.path = .error f) : f.IsSendable := by
  unfold Environment.settings at h
  dsimp only at h
  split at h
  · cases h
  · rename_i fault t' hload
    cases h
    split_ifs with hrefusal
    · cases hfile : env.settingsPath.filter (!·.isEmpty) with
      | none =>
        rw [hfile] at hload
        cases hload
      | some p =>
        rw [hfile] at hload
        intro m hm
        rw [List.mem_singleton.mp hm]
        have hp : p.isScalar = true := hpath p (Option.filter_eq_some_iff.mp hfile).1
        have hload' : (Settings.loader.load (Path.ofText p) t).1 = .error fault := by
          rw [← Settings.load_eq]
          exact congrArg Prod.fst hload
        exact .text (Loader.isScalar_message (Path.isScalar_toText_ofText hp) hload' hrefusal)
    · exact isSendable_internal e

/-- The settings in force were loaded from a file or are the defaults, so their limits are positive. -/
theorem limit_pos {path : Text} {s : Settings} (h : env.settings t path = .ok s) : 0 < env.limit s := by
  have hs : 0 < s.maxTemplateChars := by
    unfold Environment.settings at h
    dsimp only at h
    split at h
    · rename_i s' t' hload
      cases h
      cases hfile : env.settingsPath.filter (!·.isEmpty) with
      | none =>
        rw [hfile] at hload
        cases hload
        decide
      | some p =>
        rw [hfile] at hload
        exact ((load_names_file (Path.ofText p) t).2.2 s (congrArg Prod.fst hload)).1
    · cases h
  unfold Environment.limit
  cases hlimit : (env.maxTemplateChars.bind fun t => (Numeral.looseInt 10 t).toOption).filter fun n => 0 < n with
  | none => exact hs
  | some n => exact of_decide_eq_true (Option.filter_eq_some_iff.mp hlimit).2

theorem isSendable_of_bareFor (hpath : ∀ p, env.settingsPath = some p → p.isScalar = true)
    (hlength : b.template.length < 10 ^ Numeral.maxDigits) (h : bareFor env t e.path b = .error f) :
    f.IsSendable := by
  rw [bareFor] at h
  cases hsettings : env.settings t e.path with
  | error f' =>
    rw [hsettings] at h
    cases h
    exact isSendable_of_settings hpath hsettings
  | ok s =>
    rw [hsettings] at h
    change (if env.limit s < b.template.length then .error (.tooLong (env.limit s) b.template.length)
      else .ok (b.bare.getD s.bareTokens) : Except Fault Bool) = .error f at h
    split_ifs at h with hlong
    cases h
    have hpos := limit_pos hsettings
    have hlimit : (env.limit s).natAbs < 10 ^ Numeral.maxDigits := by omega
    simpa [Fault.IsSendable, Fault.detail, hlimit] using hlength

/-- Whatever is said of a body without lone surrogates, under settings at a path without them, can be sent. -/
theorem isSent_draft_templateWork (hid : requestId.isScalar = true) (hclean : ¬ HasLoneSurrogate body)
    (hpath : ∀ p, env.settingsPath = some p → p.isScalar = true)
    (hlength : body.length < 10 ^ Numeral.maxDigits) :
    IsSent ((templateWork e env t e.path body).draft requestId).body := by
  have hrefused : ∀ f, (templateWork e env t e.path body).result = .error f → f.IsSendable →
      IsSent ((templateWork e env t e.path body).draft requestId).body := by
    intro f hresult hf
    rw [Work.draft, Work.outcome_of_error hresult]
    exact (Fault.isSent_toData_iff hid).mpr fun m hm => (hf m hm).isSent
  have hresult := result_templateWork e env t e.path body
  cases hcourse : admitted e env t e.path body with
  | error f =>
    rw [hcourse] at hresult
    refine hrefused f hresult ?_
    rw [admitted] at hcourse
    cases hbody : templateBody e e.path body with
    | error f' =>
      rw [hbody] at hcourse
      cases hcourse
      exact isSendable_of_templateBody hbody
    | ok b =>
      obtain ⟨d, hread, hb⟩ := exists_of_templateBody hbody
      have htemplate := TemplateBody.length_template_le (fits_of_readBytes hread) hb
      cases hbare : bareFor env t e.path b with
      | error f' =>
        simp only [hbody, hbare, bind, Except.bind] at hcourse
        cases hcourse
        exact isSendable_of_bareFor hpath (Nat.lt_of_le_of_lt htemplate hlength) hbare
      | ok bare =>
        simp only [hbody, hbare, bind, Except.bind] at hcourse
        cases hcourse
  | ok a =>
    obtain ⟨b, bare⟩ := a
    rw [hcourse] at hresult
    change _ = fulfil e.path b bare at hresult
    obtain ⟨hs, ht⟩ := isScalar_of_admitted hclean hcourse
    rcases fulfil_cases hs ht e.path bare with ⟨answer, hanswer, hsendable⟩ | hinvalid
    · rw [Work.draft, Work.outcome_of_ok (hresult.trans hanswer)]
      exact hsendable.isSent
    · refine hrefused _ (hresult.trans hinvalid) fun m hm => ?_
      rw [List.mem_singleton.mp hm]
      exact Validation.isSendable_toData hs b.template bare

end Sent

/-! ### Requests -/

/-- **The trace of a request about a template.** It begins with an event that announces the template, if the
template is admitted, and it is concluded by one event with the status and the code of the reply. Where the
service fails because the reply has no bytes, an event for that reply comes before; then a text of the body has a
lone surrogate, or the path of the settings has one, or the body is so large that a length has too many digits.
The id of the request is one that the service gives it. -/
theorem respond_events (e : TemplateEndpoint) (env : Environment) (t : FileTree) {requestId : Text}
    (hid : requestId.isScalar = true) (body : List UInt8) :
    let r := respond env t requestId ⟨"POST", e.path, body⟩
    let draft := (templateWork e env t e.path body).draft requestId
    ∃ before after, r.events = before ++ after ∧
      (∀ b bare, IsAdmitted e env t body b bare → ∃ ev, before = [ev] ∧ ev.Announces b.template bare) ∧
      ((∀ b bare, ¬ IsAdmitted e env t body b bare) → before = []) ∧
      r.IsConcludedBy draft after ∧
      (¬ IsSent draft.body → HasLoneSurrogate body ∨
        (∃ p, env.settingsPath = some p ∧ p.isScalar = false) ∨ 10 ^ Numeral.maxDigits ≤ body.length) := by
  intro r draft
  obtain ⟨before, htells, hstart, hnone⟩ := exists_tells_templateWork e env t body
  obtain ⟨after, hevents, hconcluded⟩ := htells.reply requestId e.path
  have hr : r = (templateWork e env t e.path body).reply requestId e.path := respond_templateWork ..
  rw [hr]
  refine ⟨before, after, hevents, hstart, hnone, hconcluded, fun hlost => ?_⟩
  by_contra hprepared
  push Not at hprepared
  obtain ⟨hclean, hpath, hlength⟩ := hprepared
  refine hlost (isSent_draft_templateWork hid hclean (fun p hp => ?_) hlength)
  simpa using hpath p hp

/-- A template with a token that names nothing is announced, and answered as asked. -/
theorem respond_events_missing :
    let body := bodyOf [("template", .text "{{a}}")]
    let r := respond {} [] "r" ⟨"POST", TemplateEndpoint.resolve.path, body⟩
    ∃ start last, r.events = [start, last] ∧ start.Announces "{{a}}" true ∧ r.status = 200 ∧
      last.Concludes r := by
  intro body r
  obtain ⟨before, after, hevents, hstart, -, hconcluded, -⟩ :=
    respond_events .resolve {} [] (isScalar_ofString "r") body
  have hbody : templateBody .resolve TemplateEndpoint.resolve.path body =
      .ok { template := "{{a}}", snapshot := {}, bare := none, wish := .resolution false } := by
    decide +kernel
  obtain ⟨start, rfl, hannounces⟩ := hstart _ true ⟨{}, hbody, rfl, by decide, rfl⟩
  have hsent : IsSent ((templateWork .resolve {} [] TemplateEndpoint.resolve.path body).draft "r").body := by
    decide +kernel
  cases hconcluded with
  | once _ hlast => exact ⟨start, _, hevents, hannounces, by decide +kernel, hlast⟩
  | twice hlost => exact absurd hsent hlost

/-- A field whose value is a lone surrogate: the event says that the request was answered as asked, and then the
service fails on the reply. -/
theorem resolve_concluded_twice :
    let body := (Text.ofString "\x7b\"template\":\"{{field:k}}\",\"snapshot\":\x7b\"fields\":[" ++
      Text.ofString "\x7b\"key\":\"k\",\"label\":\"K\",\"value\":\"\\ud800\",\"sectionId\":\"s\"\x7d" ++
      Text.ofString "]\x7d\x7d").flatMap Utf8.encodePoint
    let r := respond {} [] "r" ⟨"POST", "/v1/resolve", body⟩
    r.status = 500 ∧ r.events.map (fun ev => (ev.toData.get? "event", ev.toData.get? "status_code")) =
      [(some (.text "start"), none), (some (.text "done"), some (.int 200)),
        (some (.text "error"), some (.int 500))] := by
  intro body r
  have hevents : r.events = [startEvent .resolve "{{field:k}}" true, .done (.template .resolve),
    .refused (.internal "/v1/resolve") none (some .outside)] := by decide +kernel
  refine ⟨by decide +kernel, ?_⟩
  rw [hevents]
  simp [startEvent, Event.toData, Fault.status, Data.get?_object]

end PromptTemplate.Service
