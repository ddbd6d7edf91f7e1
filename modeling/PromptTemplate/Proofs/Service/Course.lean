import PromptTemplate.Proofs.Schema
import PromptTemplate.Proofs.Service.Status

/-!
# Work on one template at several endpoints

The endpoints that take a template differ in what they do with it and in one member of the body that says
how. Up to that point the work takes one course (`admitted`): the body is read, and then the settings and the
limit are looked up. Two endpoints that are given the same template come through with the same body and flag,
or they refuse it for the same cause (`Alike`), where failures name the paths of their endpoints
(`Extends.admitted_alike`).
-/

namespace PromptTemplate.Service

open Data Json Text

/-- The endpoint that fulfils a wish. -/
def Wish.endpoint : Wish → TemplateEndpoint
  | .validation => .validate
  | .resolution _ => .resolve
  | .prompt _ => .prompt

/-- The path of an endpoint. -/
def TemplateEndpoint.path (e : TemplateEndpoint) : Text := Text.ofString "/v1/" ++ e.name

/-! ### Outcomes on several paths -/

theorem exists_of_bind_eq_ok {ε α β : Type} {x : Except ε α} {g : α → Except ε β} {b : β}
    (h : x >>= g = .ok b) : ∃ a, x = .ok a ∧ g a = .ok b := by
  cases x with
  | error e => cases h
  | ok a => exact ⟨a, rfl, h⟩

/-- The same outcome: one result, one refusal, or failures on two paths. -/
inductive Alike {α : Type} : Except Fault α → Except Fault α → Prop
  | ok (a : α) : Alike (.ok a) (.ok a)
  | refused (f : Fault) : Alike (.error f) (.error f)
  | failed (path path' : Text) : Alike (.error (.internal path)) (.error (.internal path'))

namespace Alike

variable {α β : Type} {x x' : Except Fault α}

theorem refl (x : Except Fault α) : Alike x x := by
  cases x with
  | error f => exact .refused f
  | ok a => exact .ok a

theorem bind (h : Alike x x') {g g' : α → Except Fault β} (hg : ∀ a, Alike (g a) (g' a)) :
    Alike (x >>= g) (x' >>= g') := by
  cases h with
  | ok a => exact hg a
  | refused f => exact .refused f
  | failed path path' => exact .failed path path'

end Alike

variable {env : Environment} {t : FileTree} {path path' : Text} {body body' : List UInt8}

theorem settings_alike (env : Environment) (t : FileTree) (path path' : Text) :
    Alike (env.settings t path) (env.settings t path') := by
  unfold Environment.settings
  dsimp only
  split
  · exact .ok _
  · split_ifs
    · exact .refused _
    · exact .failed path path'

theorem bareFor_alike (env : Environment) (t : FileTree) (path path' : Text) (b : TemplateBody) :
    Alike (bareFor env t path b) (bareFor env t path' b) :=
  (settings_alike env t path path').bind fun _ => .refl _

/-! ### Bodies for one template -/

/-- The members that express a wish, beside those that all endpoints know. -/
inductive Expresses : Wish → List (Text × Data) → Prop
  | validation : Expresses .validation []
  | resolution : Expresses (.resolution false) []
  | metadata {withTokens : Bool} {d : Data} (h : Schema.bool? d = some withTokens) :
    Expresses (.resolution withTokens) [("include_metadata", d)]
  | prompt : Expresses (.prompt .error) []
  | mode (m : ValidationMode) : Expresses (.prompt m) [("validation_mode", .text m.name)]

/-- The second body is the first with some members more, all in any order. Or the reader refuses both, for
one cause. -/
inductive Extends (own : List (Text × Data)) (body body' : List UInt8) : Prop
  | object {ms ms' : List (Text × Data)} (h : readBytes body = .ok (.map ms))
    (h' : readBytes body' = .ok (.map ms'))
    (hget : ∀ key, Table.get? ms' key = (Table.get? own key).or (Table.get? ms key))
  | refused {f : Json.Fault} (h : readBytes body = .error f) (h' : readBytes body' = .error f)

/-- The object of a body, if it is one, has no member that only one of the endpoints knows. -/
def IsCommon (body : List UInt8) : Prop :=
  ∀ ms, readBytes body = .ok (.map ms) →
    Table.get? ms "include_metadata" = none ∧ Table.get? ms "validation_mode" = none

namespace TemplateBody

theorem wish_of_ofData?_validate {d : Data} {b : TemplateBody} (h : ofData? .validate d = some b) :
    b.wish = .validation := by
  unfold ofData? at h
  split at h
  · simp only [Option.bind_eq_bind, Option.bind_eq_some_iff, Option.some.injEq] at h
    obtain ⟨_, -, _, -, _, -, wish, hwish, rfl⟩ := h
    exact (Option.some.inj hwish).symm
  · cases h

/-- An endpoint reads its own member behind those that all endpoints know. -/
theorem ofData?_concat {e : TemplateEndpoint} {n : Text} {o : Option Data} {wish : Wish}
    (he : members e = members .validate ++ [[n]]) (hn : ∀ ns ∈ members .validate, n ∉ ns)
    (hwish : wish? e [o] = some wish) {ms ms' : List (Text × Data)} (hfree : Table.get? ms n = none)
    (hget : ∀ key, Table.get? ms' key = if key = n then o else Table.get? ms key) :
    ofData? e (.map ms') = (ofData? .validate (.map ms)).map fun b => { b with wish := wish } := by
  unfold ofData?
  rw [he, Schema.record?_concat hn hfree hget]
  cases hr : Schema.record? (members .validate) (.map ms) with
  | none => rfl
  | some values =>
    obtain ⟨template, snapshot, bare, rfl⟩ := List.length_eq_three.mp (Schema.length_of_record? hr)
    have hvalidation : wish? .validate [] = some .validation := rfl
    simp [hwish, hvalidation, Option.map_bind]

/-- **One body at several endpoints.** With the members that express a wish, the endpoint for the wish reads
what the endpoint for validations reads without them. -/
theorem ofData?_of_expresses {wish : Wish} {own : List (Text × Data)} (hown : Expresses wish own)
    {ms ms' : List (Text × Data)} (hmetadata : Table.get? ms "include_metadata" = none)
    (hmode : Table.get? ms "validation_mode" = none)
    (hget : ∀ key, Table.get? ms' key = (Table.get? own key).or (Table.get? ms key)) :
    ofData? wish.endpoint (.map ms') =
      (ofData? .validate (.map ms)).map fun b => { b with wish := wish } := by
  have hmissing {n : Text} (hfree : Table.get? ms n = none) (hown : own = []) (key : Text) :
      Table.get? ms' key = if key = n then none else Table.get? ms key := by
    subst hown
    rw [hget]
    by_cases hkey : key = n
    · subst hkey
      simpa [Table.get?] using hfree
    · simp [Table.get?, hkey]
  have hgiven {n : Text} {d : Data} (hown : own = [(n, d)]) (key : Text) :
      Table.get? ms' key = if key = n then some d else Table.get? ms key := by
    subst hown
    rw [hget]
    by_cases hkey : key = n
    · simp [Table.get?, hkey]
    · simp [Table.get?, hkey, Ne.symm hkey]
  cases hown with
  | validation =>
    have hsame : ofData? .validate (.map ms') = ofData? .validate (.map ms) := by
      unfold ofData?
      rw [Schema.record?_congr hget]
    cases hread : ofData? .validate (.map ms) with
    | none => exact hsame.trans hread
    | some b =>
      have hwish : b.wish = .validation := wish_of_ofData?_validate hread
      refine hsame.trans (hread.trans (congrArg some ?_))
      rw [← hwish]
  | resolution => exact ofData?_concat rfl (by decide) rfl hmetadata (hmissing hmetadata rfl)
  | metadata h =>
    have hwish : wish? .resolve [some _] = some (.resolution _) := congrArg (Option.map Wish.resolution) h
    exact ofData?_concat rfl (by decide) hwish hmetadata (hgiven rfl)
  | prompt => exact ofData?_concat rfl (by decide) rfl hmode (hmissing hmode rfl)
  | mode m =>
    have hwish : wish? .prompt [some (.text m.name)] = some (.prompt m) := by cases m <;> decide
    exact ofData?_concat rfl (by decide) hwish hmode (hgiven rfl)

end TemplateBody

/-! ### The course of the work -/

/-- The body of a request whose template is within the limit, and whether bare tokens count. -/
def admitted (e : TemplateEndpoint) (env : Environment) (t : FileTree) (path : Text) (body : List UInt8) :
    Except Fault (TemplateBody × Bool) := do
  let b ← templateBody e path body
  let bare ← bareFor env t path b
  return (b, bare)

theorem result_templateWork (e : TemplateEndpoint) (env : Environment) (t : FileTree) (path : Text)
    (body : List UInt8) : (templateWork e env t path body).result =
      (admitted e env t path body).bind fun a => fulfil path a.1 a.2 := by
  rw [templateWork, admitted]
  cases templateBody e path body with
  | error f => exact Work.result_refuse ..
  | ok b =>
    dsimp only [bind, Except.bind]
    cases bareFor env t path b with
    | error f => exact Work.result_refuse ..
    | ok bare => exact Work.result_finish ..

theorem respond_templateWork (e : TemplateEndpoint) (env : Environment) (t : FileTree) (requestId : Text)
    (body : List UInt8) : respond env t requestId ⟨"POST", e.path, body⟩ =
      (templateWork e env t e.path body).reply requestId e.path := by
  cases e <;> rfl

/-- The body of a request was read from an object. -/
theorem exists_of_templateBody {e : TemplateEndpoint} {b : TemplateBody} (h : templateBody e path body = .ok b) :
    ∃ d, readBytes body = .ok d ∧ TemplateBody.ofData? e d = some b := by
  obtain ⟨d, hobject, hread⟩ := exists_of_bind_eq_ok h
  refine ⟨d, readBytes_of_objectOf hobject, ?_⟩
  split at hread
  · cases hread
    assumption
  · cases hread

theorem exists_of_admitted {e : TemplateEndpoint} {b : TemplateBody} {bare : Bool}
    (h : admitted e env t path body = .ok (b, bare)) :
    ∃ d, readBytes body = .ok d ∧ TemplateBody.ofData? e d = some b := by
  obtain ⟨b', hbody, h⟩ := exists_of_bind_eq_ok h
  obtain ⟨bare', -, h⟩ := exists_of_bind_eq_ok h
  cases h
  exact exists_of_templateBody hbody

section Course

variable {wish : Wish} {own : List (Text × Data)}

theorem Extends.templateBody_alike (h : Extends own body body') (hown : Expresses wish own)
    (hcommon : IsCommon body) (path path' : Text) :
    Alike (templateBody wish.endpoint path' body')
      ((templateBody .validate path body).map fun b => { b with wish := wish }) := by
  cases h with
  | object hread hread' hget =>
    obtain ⟨hmetadata, hmode⟩ := hcommon _ hread
    rw [templateBody_of_ok wish.endpoint (objectOf_of_ok hread'),
      templateBody_of_ok .validate (objectOf_of_ok hread),
      TemplateBody.ofData?_of_expresses hown hmetadata hmode hget]
    cases TemplateBody.ofData? .validate (.map _) with
    | none => exact .refused .schema
    | some b => exact .ok _
  | @refused f hread hread' =>
    have herror (e : TemplateEndpoint) {path : Text} {body : List UInt8} {f : Fault}
        (h : objectOf body path = .error f) : templateBody e path body = .error f := by
      rw [templateBody, h]
      rfl
    by_cases hf : f = .malformed
    · subst hf
      rw [herror _ (objectOf_of_malformed hread'), herror _ (objectOf_of_malformed hread)]
      exact .refused .notJson
    · rw [herror _ (objectOf_of_refused hread' hf), herror _ (objectOf_of_refused hread hf)]
      exact .failed path' path

/-- **Endpoints that are given one template take one course.** -/
theorem Extends.admitted_alike (h : Extends own body body') (hown : Expresses wish own)
    (hcommon : IsCommon body) (env : Environment) (t : FileTree) (path path' : Text) :
    Alike (admitted wish.endpoint env t path' body')
      ((admitted .validate env t path body).map fun a => ({ a.1 with wish := wish }, a.2)) := by
  -- the wish is of no account for the flag, so it may be put in before the flag is looked up
  have hcourse : (admitted .validate env t path body).map (fun a => ({ a.1 with wish := wish }, a.2)) =
      (templateBody .validate path body).map (fun b => { b with wish := wish }) >>= fun b =>
        bareFor env t path b >>= fun bare => pure (b, bare) := by
    rw [admitted]
    cases templateBody .validate path body with
    | error f => rfl
    | ok b =>
      have hbare : bareFor env t path { b with wish := wish } = bareFor env t path b := rfl
      simp only [bind, Except.bind, Except.map, hbare]
      cases bareFor env t path b <;> rfl
  rw [hcourse]
  exact (h.templateBody_alike hown hcommon path path').bind fun b =>
    (bareFor_alike env t path' path b).bind fun bare => .refl _

end Course

end PromptTemplate.Service
