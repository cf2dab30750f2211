import SourceAudit.Command.Run
import SourceAudit.Proofs.Analyzer.SharedStore
import SourceAudit.Proofs.Analyzer.SilentService
import SourceAudit.Proofs.Config.Priority

/-!
  The requests that an analysis posts, and commands that are told to do without the
  remote service.

  Requests are only about a source in a language (`Remote.AreOnlyAbout`) if there is at
  most one of them, and its body tells the source and the language and nothing else. What
  is proved:
    1. `areOnlyAbout_ask` — asking a service posts such requests.
    2. `asksOnce_outputs` — of stages in any order, the only exchange is that of a gateway
       that is switched on. One stage keeps this (`asksOnce_finish`).
    3. `areOnlyAbout_analyzeAt` — so a call posts at most one request, about the source in
       the language that was found for it.
    4. `posted_eq_nil` — a call posts nothing if the gateway is switched off, if the source
       is blank, or if the result was kept.
    5. `valueOf_gateway_of_caller` — what a caller sets for the service stands in a loaded
       configuration, whatever the files and variables hold, and in whatever form.
    6. `gatewayActive_of_noGateway` — so the option for it switches the service off in
       every configuration that can be loaded.
    7. `posts_only_as_told` — then the command posts nothing; and in general a call posts
       at most one request, about its own source.
-/
namespace SourceAudit

/-! ## Requests -/

namespace Remote

/-- There is at most one request, whose body tells a source and its language and nothing else. -/
structure AreOnlyAbout (source : Text) (language : String) (posted : List Request) : Prop where
  length_le : posted.length ≤ 1
  body : ∀ request ∈ posted,
    request.body = .table [("code", .text (String.ofList source)), ("language", .text language)]

theorem areOnlyAbout_nil (source : Text) (language : String) : AreOnlyAbout source language [] :=
  ⟨Nat.zero_le 1, nofun⟩

namespace Gateway

variable {g : Gateway} {source : Text} {language : String}

/-- Asking posts at most one request, which is about the source in its language. -/
theorem areOnlyAbout_ask : AreOnlyAbout source language (g.ask source language).posted := by
  unfold ask
  split
  · cases hrequest : g.requestFor source language with
    | error f => exact areOnlyAbout_nil source language
    | ok request =>
      obtain ⟨address, -, rfl⟩ := exists_of_requestFor hrequest
      refine ⟨Nat.le_refl 1, fun posted hposted => ?_⟩
      obtain rfl := List.mem_singleton.mp hposted
      rfl
  · exact areOnlyAbout_nil source language

end Gateway
end Remote

namespace Analyzer

section
variable {a : Analyzer} {s : Subject}

/-! ## Stages -/

/-- Whether outputs hold no exchange but the one in which the gateway asks about a subject. -/
def AsksOnce (a : Analyzer) (s : Subject) (o : Outputs) : Prop :=
  ∀ e ∈ o.exchange, a.gateway.isActive = true ∧ e = a.gateway.ask s.source s.language

/-- One more stage keeps this. -/
theorem asksOnce_finish {o : Outputs} (h : a.AsksOnce s o) (stage : Stage) :
    a.AsksOnce s (a.finish s o stage) := by
  cases stage with
  | resolution | classification | metrics | complexity | detectors | security | tests | grammar =>
    exact h
  | gateway =>
    rw [finish]
    split
    · next hactive =>
      intro e he
      rw [guarded] at he
      split at he
      · cases he
      · exact ⟨hactive, (Option.some.inj he).symm⟩
    · exact h

/-- So do stages in any order. -/
theorem asksOnce_outputs (order : List Stage) : a.AsksOnce s (a.outputs s order) := by
  have hrun : ∀ o, a.AsksOnce s o → a.AsksOnce s (order.foldl (a.finish s) o) := by
    induction order with
    | nil => exact fun _ h => h
    | cons stage rest ih => exact fun o h => ih _ (asksOnce_finish h stage)
  exact hrun {} nofun

/-! ## Analyses -/

/-- An analysis posts what its gateway posts, or nothing. -/
theorem posted_analysisOf (detection : Detection) (metrics : Metrics) (order : List Stage) :
    (a.analysisOf s detection metrics order).posted = [] ∨
      a.gateway.isActive = true ∧ (a.analysisOf s detection metrics order).posted =
        (a.gateway.ask s.source s.language).posted := by
  have hasks := asksOnce_outputs (a := a) (s := s) order
  unfold analysisOf
  dsimp only
  cases hexchange : (a.outputs s order).exchange with
  | none => exact .inl rfl
  | some e =>
    obtain ⟨hactive, rfl⟩ := hasks e hexchange
    refine .inr ⟨hactive, ?_⟩
    dsimp only
    split <;> rfl

theorem posted_freshly (source : Text) (detection : Detection) (order : List Stage) :
    (a.freshly source detection order).posted = [] ∨
      a.gateway.isActive = true ∧ (a.freshly source detection order).posted =
        (a.gateway.ask source detection.language).posted := by
  unfold freshly
  split
  · exact .inl rfl
  · dsimp only
    split
    · exact .inl rfl
    · exact posted_analysisOf detection _ order

/-- A call posts what its gateway posts, or nothing. What it posts, it does for a source that is not
blank and whose result is not kept. -/
theorem posted_analyzeAt (a : Analyzer) (now : Rat) (cache : Option (Cache AnalysisResult))
    (source : Text) (declared file : Option String) :
    let done := (a.analyzeAt now cache source declared file).1
    done.posted = [] ∨
      (source.isBlank = false ∧ done.recalled = false ∧ a.gateway.isActive = true) ∧
        done.posted = (a.gateway.ask source (a.resolve source declared file).language).posted := by
  intro done
  have hfreshly := posted_freshly (a := a) source (a.resolve source declared file) Stage.independent
  unfold done analyzeAt
  dsimp only
  cases source.isBlank with
  | true => exact .inl rfl
  | false =>
    rw [if_neg Bool.false_ne_true]
    split
    · exact .inl rfl
    · split
      · exact hfreshly.imp_right fun h => ⟨⟨rfl, rfl, h.1⟩, h.2⟩
      · exact hfreshly.imp_right fun h => ⟨⟨rfl, rfl, h.1⟩, h.2⟩

end

/-! ## Calls -/

variable (a : Analyzer) (now : Rat) (cache : Option (Cache AnalysisResult)) (source : Text)
  (declared file : Option String)

/-- A call posts at most one request, about the source in the language that was found for it. -/
theorem areOnlyAbout_analyzeAt :
    Remote.AreOnlyAbout source (a.resolve source declared file).language
      (a.analyzeAt now cache source declared file).1.posted := by
  rcases posted_analyzeAt a now cache source declared file with hnone | ⟨-, hsome⟩
  · rw [hnone]
    exact Remote.areOnlyAbout_nil source _
  · rw [hsome]
    exact Remote.Gateway.areOnlyAbout_ask

/-- A call posts nothing if the gateway is switched off, if the source is blank, or if the result
was kept. -/
theorem posted_eq_nil (h : a.gateway.isActive = false ∨ source.isBlank = true ∨
      (a.analyzeAt now cache source declared file).1.recalled = true) :
    (a.analyzeAt now cache source declared file).1.posted = [] := by
  rcases posted_analyzeAt a now cache source declared file with hnone | ⟨⟨hblank, hfresh, hon⟩, -⟩
  · exact hnone
  · rw [hblank, hfresh, hon] at h
    simp at h

end Analyzer

/-! ## Switching the service off -/

namespace Config

variable {s : ConfigSources} {c : Config}

/-- What a caller sets for the service stands, whatever the files and the variables set. -/
theorem valueOf_gateway_of_caller {above : List (String × Value)} {f : Setting} {v : Value}
    (h : load s = .ok c) (hcaller : (s.overrides.map (·.1)).Nodup)
    (htable : Value.find? s.overrides "gateway" = some (.table above))
    (habove : (above.map (·.1)).Nodup) (hf : f ∈ Section.gateway.fields)
    (hname : Value.find? above f.name = some v) : c.gateway.valueOf f.name = v := by
  obtain ⟨merged, hmerged, h⟩ := exists_of_bind_eq_ok h
  obtain ⟨found, requested, environment, -, -, -, rfl⟩ := exists_of_layered hmerged
  obtain ⟨-, gateway, -, -, -, -, hgateway, hfilled, -⟩ := exists_of_ofSettings h
  have hcalled : Value.find? s.overrides.ofCaller "gateway" = some (.table above) := by
    rw [Settings.find?_ofCaller (by decide) (by decide), if_neg (by decide), htable]
  have hnames := Settings.nodup_withLoudness (Settings.nodup_withLoudness hcaller "verbose" "verbose")
    "quiet" "quiet"
  have hgiven := Settings.given?_merge_of_table hnames (by decide) hcalled habove hname
    ((found ++ [requested, environment]).foldl Settings.merge [])
  have hgatewayAt : (some "gateway", Section.gateway) ∈ Section.places :=
    List.mem_cons_of_mem _ (List.mem_cons_of_mem _ List.mem_cons_self)
  rw [valueOf_fill (Section.nodup_names hgatewayAt) hfilled hf, find?_nested hgateway]
  simp only [List.foldl_append, List.foldl_cons, List.foldl_nil] at hgiven ⊢
  rw [Settings.ofCaller, hgiven, Option.getD_some]

end Config

namespace Command

open Analyzer (mumbling)

variable {w : World} {caches : Caches} {o : AnalyzeOptions} {c : Config}

/-- The settings of some options have every name once. -/
theorem nodup_overrides (o : AnalyzeOptions) : (o.overrides.map (·.1)).Nodup := by
  unfold AnalyzeOptions.overrides
  cases o.noGateway <;> cases o.noCache <;> cases o.verbose <;> cases o.quiet <;> decide

/-- The option to do without the service switches it off, whatever the files and variables set. -/
theorem gatewayActive_of_noGateway (h : w.config o.config o.overrides = .ok c)
    (hoption : o.noGateway = true) : Config.gatewayActive c.gateway = false := by
  have htable : Value.find? o.overrides "gateway" = some (.table [("enabled", .flag false)]) := by
    rw [AnalyzeOptions.overrides, hoption]
    rfl
  have henabled := Config.valueOf_gateway_of_caller (f := ⟨"enabled", .flag false, .flag⟩)
    (Config.eq_ok_of_mapError h) (nodup_overrides o) htable (by decide) List.mem_cons_self rfl
  rw [Config.gatewayActive, henabled]
  rfl

/-- The requests that the analysis of a file posts; none, if trouble stops it before. -/
def posted (w : World) (caches : Caches) (o : AnalyzeOptions) : List Remote.Request :=
  ((analysis w caches o).toOption.map fun done => done.1.posted).getD []

/-- The analysis of a file posts nothing if its configuration leaves the service out. -/
theorem posted_of_inactive (h : w.config o.config o.overrides = .ok c)
    (hoff : Config.gatewayActive c.gateway = false) : posted w caches o = [] := by
  unfold posted
  cases hdone : analysis w caches o with
  | error trouble => rfl
  | ok done =>
    unfold analysis at hdone
    obtain ⟨_, hconfig, hdone⟩ := exists_of_bind_eq_ok hdone
    obtain rfl := Except.ok.inj (h.symm.trans hconfig)
    obtain ⟨source, -, hdone⟩ := exists_of_bind_eq_ok hdone
    obtain ⟨a, ha, hdone⟩ := exists_of_bind_eq_ok hdone
    have hgateway : a.gateway.isActive = false := by
      unfold World.analyzer at ha
      split at ha
      · cases ha
      · obtain ⟨-, rfl⟩ := Analyzer.ofConfig?_eq_ok_iff.mp (Config.eq_ok_of_mapError ha)
        exact hoff
    obtain rfl := Except.ok.inj hdone
    exact Analyzer.posted_eq_nil a _ _ _ _ _ (.inl hgateway)

/-- A command that is told to do without the service fails for its configuration before it analyses
anything, or posts nothing, whatever files and variables it meets. In general a call of an analyzer
posts at most one request, which tells the source and the language that was found for it and
nothing else; it posts none if the gateway is switched off, if the source is blank, or if the
result comes from the cache. -/
theorem posts_only_as_told :
    (∀ (w : World) (caches : Caches) (o : AnalyzeOptions), o.noGateway = true →
      (∃ fault, w.config o.config o.overrides = .error (.failure (.ofConfig fault)) ∧
        analysis w caches o = .error (.failure (.ofConfig fault))) ∨
      (∃ c, w.config o.config o.overrides = .ok c) ∧ posted w caches o = []) ∧
    ∀ (a : Analyzer) (now : Rat) (cache : Option (Cache AnalysisResult)) (source : Text)
      (declared file : Option String),
      let done := (a.analyzeAt now cache source declared file).1
      Remote.AreOnlyAbout source (a.resolve source declared file).language done.posted ∧
      (a.gateway.isActive = false ∨ source.isBlank = true ∨ done.recalled = true →
        done.posted = []) := by
  refine ⟨fun w caches o hoption => ?_, fun a now cache source declared file =>
    ⟨a.areOnlyAbout_analyzeAt now cache source declared file,
      a.posted_eq_nil now cache source declared file⟩⟩
  cases hconfig : w.config o.config o.overrides with
  | error trouble =>
    unfold World.config at hconfig
    cases hload : Config.load (w.sources o.config o.overrides) with
    | ok c =>
      rw [hload] at hconfig
      cases hconfig
    | error fault =>
      refine .inl ⟨fault, ?_, ?_⟩
      · rw [← hconfig, hload]
        rfl
      · rw [analysis, World.config, hload]
        rfl
  | ok c => exact .inr ⟨⟨c, rfl⟩, posted_of_inactive hconfig (gatewayActive_of_noGateway hconfig hoption)⟩

/-- A place in which the project gives an address and a key of the service, and a variable switches
it on. -/
def servedPlace : World where
  files path :=
    if path == "/p/codelens.toml" then
      .file ("[gateway]\nurl = \"http://one.test/\"\napi_key = \"k\"\n".toList.map fun c =>
        c.toNat.toUInt8)
    else if path == "a.py" then .file ("x = 1\n".toList.map fun c => c.toNat.toUInt8)
    else .missing
  home := "/h"
  directory := "/p"
  environment := [("CODELENS_GATEWAY_ENABLED", "yes")]
  server := mumbling.server

theorem posts_only_as_told_served :
    let o : AnalyzeOptions := { file := "a.py", noGateway := true }
    let a : Analyzer :=
      { detectors := Detector.battery {}, gateway := mumbling, testCases := .ok (some 10) }
    let blank : Text := " \n".toList
    let served := (servedPlace.config o.config []).toOption.map fun c =>
      Config.gatewayActive c.gateway
    served = some true ∧ o.noGateway = true ∧ posted servedPlace [] o = [] ∧
      a.gateway.isActive = true ∧ blank.isBlank = true ∧
      (a.analyzeAt 0 none blank (some "python") none).1.posted = [] := by
  intro o a blank served
  have hserved : served = some true := by decide +kernel
  have hblank : blank.isBlank = true := by decide +kernel
  obtain ⟨hcommand, hcall⟩ := posts_only_as_told
  refine ⟨hserved, rfl, ?_, by decide, hblank,
    (hcall a 0 none blank (some "python") none).2 (.inr (.inl hblank))⟩
  rcases hcommand servedPlace [] o rfl with ⟨fault, -, hstopped⟩ | ⟨-, hnothing⟩
  · rw [posted, hstopped]
    rfl
  · exact hnothing

end Command
end SourceAudit
