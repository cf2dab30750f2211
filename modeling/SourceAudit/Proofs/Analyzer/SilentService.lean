import SourceAudit.Analyzer.Run

/-!
  Analyses whose remote service has nothing to say.

  A reply is silent (`Reply.IsSilent`) if it is late, broken or no success, if its
  body holds no object that can be read, or if it holds prose in which nothing is
  found. What is proved:
    1. `isSilent_ask` — asking a service that is silent ends silent, whether a
       request is posted or not.
    2. `outputs_muted` — the same stages behind a gateway that is switched off put
       out the same, but for the exchange. One stage keeps this (`finish_muted`), so
       any order of stages does.
    3. `analysisOf_of_silent` — merging what is silent leaves a result as it is.
    4. `analyze_unheard` — so the analysis is the one without the service, in every
       field.
-/
namespace SourceAudit

/-! ## Silence -/

namespace Remote

/-- An answer adds nothing if it is prose in which nothing is found. -/
def Answer.IsSilent : Answer → Prop
  | .payload _ => False
  | .prose t => ∃ report, salvage t = .ok report ∧ report.findings = []

/-- An outcome adds nothing if there is no answer, or one that adds nothing. -/
def Outcome.IsSilent : Outcome → Prop
  | .unavailable _ | .failed _ => True
  | .answered a => a.IsSilent

/-- A reply adds nothing if there is none in time, if the exchange breaks, if its status is none of
success, or if no answer is read from its body but one that adds nothing. -/
def Reply.IsSilent : Reply → Prop
  | .timeout | .broken _ => True
  | .response status body =>
    200 ≤ status ∧ status < 300 → ∀ a, Answer.ofBody body = .ok a → a.IsSilent

theorem Outcome.isSilent_ofReply {r : Reply} (h : r.IsSilent) : (ofReply r).IsSilent := by
  cases r with
  | timeout | broken reason => trivial
  | response status body =>
    rw [ofReply]
    split
    · rename_i hstatus
      rw [ofBody]
      split
      · rename_i a ha
        exact h hstatus a ha
      · trivial
      · trivial
    · trivial

theorem Outcome.isSilent_ofReplyTo (request : Request) {r : Reply} (h : r.IsSilent) :
    (ofReplyTo request r).IsSilent := by
  cases r with
  | timeout | broken reason => exact isSilent_ofReply h
  | response status body =>
    rw [ofReplyTo]
    split
    · exact isSilent_ofReply h
    · trivial

namespace Gateway

/-- A request is made of an address, the source, its language and the key of the caller. -/
theorem exists_of_requestFor {g : Gateway} {source : Text} {language : String} {request : Request}
    (h : g.requestFor source language = .ok request) :
    ∃ address, g.address = .ok address ∧
      request = ⟨address, source, language, g.given? "api_key"⟩ := by
  unfold requestFor at h
  cases haddress : g.address with
  | error f =>
    rw [haddress] at h
    cases h
  | ok address =>
    rw [haddress] at h
    simp only [bind, Except.bind] at h
    split at h
    · cases h
    · exact ⟨address, rfl, (Except.ok.inj h).symm⟩

/-- A request carries the source that it is about. -/
theorem source_of_requestFor {g : Gateway} {source : Text} {language : String} {request : Request}
    (h : g.requestFor source language = .ok request) : request.source = source := by
  obtain ⟨address, -, rfl⟩ := exists_of_requestFor h
  rfl

/-- Asking ends silent if every reply to a request about the source is silent. -/
theorem isSilent_ask {g : Gateway} {source : Text} (language : String)
    (h : ∀ request : Request, request.source = source → (g.server request).IsSilent) :
    (g.ask source language).outcome.IsSilent := by
  unfold ask
  split
  · cases hrequest : g.requestFor source language with
    | error f => trivial
    | ok request =>
      exact Outcome.isSilent_ofReplyTo request (h request (source_of_requestFor hrequest))
  · trivial

end Gateway
end Remote

namespace AnalysisResult

/-- What is silent leaves a result as it is. -/
theorem merged_of_isSilent (r : AnalysisResult) {o : Remote.Outcome} (h : o.IsSilent) :
    r.merged o = .ok r := by
  cases o with
  | unavailable reason | failed f => rfl
  | answered a =>
    cases a with
    | payload p => exact absurd h id
    | prose t =>
      obtain ⟨report, hreport, hnothing⟩ := h
      rw [merged, withProse, hreport, Except.map, hnothing]
      rfl

/-- A result in which no service took part. -/
def IsLocal (r : AnalysisResult) : Prop := r.remoteUsed = false ∧ r.remote = none

theorem isLocal_scored {r : AnalysisResult} (h : r.IsLocal) : r.scored.IsLocal := h

theorem isLocal_empty (detection : Detection) (source : Text) : (empty detection source).IsLocal :=
  ⟨rfl, rfl⟩

end AnalysisResult

/-! ## Stages -/

/-- Outputs that are the others without their exchange, which is silent. -/
structure Outputs.Mutes (o muted : Outputs) : Prop where
  same : muted = { o with exchange := none }
  silent : ∀ e ∈ o.exchange, e.outcome.IsSilent

namespace Analyzer

/-- The service has nothing to say about a source, or the stage of the gateway fails. -/
def Unheard (a : Analyzer) (source : Text) : Prop :=
  (∃ reason, a.fault? .gateway = some reason) ∨
    ∀ request : Remote.Request, request.source = source → (a.gateway.server request).IsSilent

/-- An analyzer with another gateway, and the salt that belongs to it. -/
def behind (a : Analyzer) (gateway : Remote.Gateway) (salt : String) : Analyzer :=
  { a with gateway := gateway, salt := salt }

section
variable {a : Analyzer} {off : Remote.Gateway}

/-- One more stage keeps the outputs the same but for the exchange. -/
theorem finish_muted (hoff : off.isActive = false) (salt : String) {s : Subject}
    (hunheard : a.Unheard s.source) {o muted : Outputs} (h : o.Mutes muted) (stage : Stage) :
    (a.finish s o stage).Mutes ((a.behind off salt).finish s muted stage) := by
  obtain ⟨rfl, hsilent⟩ := h
  cases stage with
  | resolution | classification | metrics | complexity | detectors | security | tests | grammar =>
    exact ⟨rfl, hsilent⟩
  | gateway =>
    have hmuted : (a.behind off salt).finish s { o with exchange := none } .gateway =
        { o with exchange := none } :=
      if_neg (by rw [behind, hoff]; decide)
    rw [hmuted, finish]
    split
    · refine ⟨rfl, fun e he => ?_⟩
      rcases hunheard with ⟨reason, hfault⟩ | hserver
      · rw [guarded, hfault] at he
        cases he
      · rw [guarded] at he
        split at he
        · cases he
        · obtain rfl := Option.some.inj he
          exact Remote.Gateway.isSilent_ask _ hserver
    · exact ⟨rfl, hsilent⟩

/-- Stages in any order put out the same but for the exchange. -/
theorem outputs_muted (hoff : off.isActive = false) (salt : String) {s : Subject}
    (hunheard : a.Unheard s.source) (order : List Stage) :
    (a.outputs s order).Mutes ((a.behind off salt).outputs s order) := by
  have hrun : ∀ o muted : Outputs, o.Mutes muted →
      (order.foldl (a.finish s) o).Mutes (order.foldl ((a.behind off salt).finish s) muted) := by
    induction order with
    | nil => exact fun _ _ h => h
    | cons stage rest ih => exact fun _ _ h => ih _ _ (finish_muted hoff salt hunheard h stage)
  exact hrun {} {} ⟨rfl, fun _ he => by cases he⟩

/-- Where the exchange adds nothing, the result of an analysis is that of its own stages. -/
theorem analysisOf_of_silent {s : Subject} {order : List Stage} (detection : Detection)
    (metrics : Metrics) (h : ∀ e ∈ (a.outputs s order).exchange, e.outcome.IsSilent) :
    (a.analysisOf s detection metrics order).result =
      some (a.locally s detection metrics (a.outputs s order)).scored := by
  simp only [analysisOf]
  split
  · rfl
  · rename_i e he
    rw [AnalysisResult.merged_of_isSilent _ (h e he)]

/-- The analysis of a subject on which the service is silent is that without the service, and no
service takes part in it. -/
theorem analysisOf_unheard (hoff : off.isActive = false) (salt : String) {s : Subject}
    (hunheard : a.Unheard s.source) (detection : Detection) (metrics : Metrics)
    (order : List Stage) :
    (a.analysisOf s detection metrics order).result =
        ((a.behind off salt).analysisOf s detection metrics order).result ∧
      ∀ r ∈ (a.analysisOf s detection metrics order).result, r.IsLocal := by
  obtain ⟨hsame, hsilent⟩ := outputs_muted hoff salt hunheard order
  have hmuted : ∀ e ∈ ((a.behind off salt).outputs s order).exchange, e.outcome.IsSilent := by
    intro e he
    rw [hsame] at he
    cases he
  rw [analysisOf_of_silent detection metrics hsilent, analysisOf_of_silent detection metrics hmuted,
    hsame]
  refine ⟨rfl, fun r hr => ?_⟩
  obtain rfl := Option.some.inj hr
  exact AnalysisResult.isLocal_scored ⟨rfl, rfl⟩

/-- So is a fresh analysis of a source. -/
theorem freshly_unheard (hoff : off.isActive = false) (salt : String) {source : Text}
    (hunheard : a.Unheard source) (detection : Detection) (order : List Stage) :
    (a.freshly source detection order).result =
        ((a.behind off salt).freshly source detection order).result ∧
      ∀ r ∈ (a.freshly source detection order).result, r.IsLocal := by
  have hregistry : (a.behind off salt).registry = a.registry := rfl
  have hmetrics : ∀ prepared : Prepared,
      ((a.behind off salt).guarded .metrics fun _ => some (Metrics.ofSource prepared 1)) =
        a.guarded .metrics fun _ => some (Metrics.ofSource prepared 1) := fun _ => rfl
  simp only [freshly, hregistry, hmetrics]
  split
  · exact ⟨rfl, fun r hr => by cases hr⟩
  · split
    · exact ⟨rfl, fun r hr => by cases hr⟩
    · exact analysisOf_unheard hoff salt hunheard detection _ order

end

/-- The analysis of any source by an analyzer whose service has nothing to say about it, or whose
gateway fails. It is the analysis of the same analyzer behind a gateway that is switched off, in
every field; the service takes no part in it and gives no figures. -/
theorem analyze_unheard (a : Analyzer) (off : Remote.Gateway) (salt : String) (source : Text)
    (declared file : Option String) (hoff : off.isActive = false) (hunheard : a.Unheard source) :
    a.analyze source declared file = (a.behind off salt).analyze source declared file ∧
      (a.analyze source declared file).remoteUsed = false ∧
      (a.analyze source declared file).remote = none := by
  have hresolve : (a.behind off salt).resolve source declared file =
      a.resolve source declared file := rfl
  obtain ⟨hsame, hlocal⟩ := freshly_unheard hoff salt hunheard (a.resolve source declared file)
    Stage.independent
  simp only [analyze, analyzeAt, hresolve, Option.bind_none]
  split
  · exact ⟨rfl, AnalysisResult.isLocal_empty _ source⟩
  · rw [← hsame]
    cases hresult :
        (a.freshly source (a.resolve source declared file) Stage.independent).result with
    | none => exact ⟨rfl, AnalysisResult.isLocal_empty _ source⟩
    | some r => exact ⟨rfl, hlocal r hresult⟩

/-- A body that is an object and no payload, and in which nothing is found. -/
def mumble : Text := "\x7b\"quality\": 5\x7d".toList

/-- A gateway that is switched on, to a service that mumbles about Python and is out of order for
all other languages. -/
def mumbling : Remote.Gateway where
  settings := [("enabled", .flag true), ("url", .text "http://localhost/")]
  server request := if request.language == "python" then .response 200 mumble
    else .response 503 "\x7b\"errors\": []\x7d".toList

theorem isSilent_mumbling (request : Remote.Request) : (mumbling.server request).IsSilent := by
  have hanswer : (Remote.Answer.ofBody mumble).toOption = some (.prose mumble) := by decide +kernel
  have hnothing : (Remote.salvage mumble).toOption = some {} := by decide +kernel
  unfold mumbling
  dsimp only
  split
  · intro _ a ha
    rw [ha] at hanswer
    obtain rfl := Option.some.inj hanswer
    cases hreport : Remote.salvage mumble with
    | error e =>
      rw [hreport] at hnothing
      cases hnothing
    | ok report =>
      rw [hreport] at hnothing
      obtain rfl := Option.some.inj hnothing
      exact ⟨_, hreport, rfl⟩
  · intro hstatus
    omega

/-- A service that mumbles is not heard. -/
theorem analyze_mumbling :
    let a : Analyzer :=
      { detectors := Detector.battery {}, gateway := mumbling, testCases := .ok (some 10) }
    let off : Remote.Gateway := { mumbling with settings := [("enabled", .flag false)] }
    let source := "def f(x):\n    return int(x)\n".toList
    a.gateway.isActive = true ∧ off.isActive = false ∧ a.Unheard source ∧
      a.analyze source none none = (a.behind off "").analyze source none none ∧
      (a.analyze source none none).remoteUsed = false ∧
      (a.analyze source none none).remote = none := by
  intro a off source
  have hoff : off.isActive = false := by decide
  have hunheard : a.Unheard source := .inr fun request _ => isSilent_mumbling request
  exact ⟨by decide, hoff, hunheard, analyze_unheard a off "" source none none hoff hunheard⟩

end Analyzer
end SourceAudit
