import SourceAudit.Proofs.Analyzer.CachedCalls
import SourceAudit.Proofs.Config.ToldSettings

/-!
  Analyzers of several configurations that share a store.

  A salt tells the thresholds, the number of test cases and whether the service is used.
  It does not tell where the service is nor who asks, so that has to be the same
  (`Setup.SameService`). What is proved then:
    1. `freshly_congr` — analyzers that differ in their fallback only find the same in
       a source of one language.
    2. `Setup.alike` — configurations with one salt lead to such analyzers.
    3. `served_shared` — so whatever they keep in a shared store serves each of them as
       its own analysis would.
    4. `not_told_address` — two configurations that ask at different addresses have one
       salt and find different things.
-/
namespace SourceAudit

/-! ## Analyzers that work alike -/

/-- Analyzers that do the same in a source of one language. Their fallbacks may differ. -/
structure Analyzer.Alike (a b : Analyzer) : Prop where
  language : ∀ name, a.registry.get name = b.registry.get name
  findings : ∀ s, a.findings s = b.findings s
  active : a.gateway.isActive = b.gateway.isActive
  asked : a.gateway.isActive = true → a.gateway.ask = b.gateway.ask
  testCases : a.testCases = b.testCases
  fault : a.fault? = b.fault?

/-- Fallbacks do not count when a language is looked up. -/
theorem Registry.resolve_congr {r q : Registry} (hlanguages : r.languages = q.languages)
    (haliases : r.aliases = q.aliases) (name : Option String) : r.resolve name = q.resolve name := by
  have hnames : r.names = q.names := by rw [names, names, hlanguages]
  cases name <;> simp only [resolve, hnames, haliases]

theorem Registry.get_congr {r q : Registry} (hlanguages : r.languages = q.languages)
    (haliases : r.aliases = q.aliases) (name : Option String) : r.get name = q.get name := by
  have hnames : r.names = q.names := by rw [names, names, hlanguages]
  simp only [get, resolve_congr hlanguages haliases, hnames, hlanguages]

theorem Remote.Gateway.ask_congr {g k : Gateway} (hserver : g.server = k.server)
    (hactive : g.isActive = k.isActive)
    (hurl : g.settings.valueOf "url" = k.settings.valueOf "url")
    (hkey : g.settings.valueOf "api_key" = k.settings.valueOf "api_key") : g.ask = k.ask := by
  funext source language
  have hrequest : g.requestFor source language = k.requestFor source language := by
    simp only [requestFor, address, given?, hurl, hkey]
  simp only [ask, hactive, hrequest, hserver]

namespace Analyzer

section
variable {a b : Analyzer}

theorem guarded_congr {α : Type} (h : a.Alike b) (stage : Stage) (work : Unit → Option α) :
    a.guarded stage work = b.guarded stage work := by
  rw [guarded, guarded, h.fault]

/-- Each stage puts out the same. -/
theorem finish_congr (h : a.Alike b) (s : Subject) (o : Outputs) (stage : Stage) :
    a.finish s o stage = b.finish s o stage := by
  cases stage with
  | complexity | security => simp only [finish, guarded_congr h]
  | detectors => simp only [finish, guarded_congr h, h.findings]
  | gateway =>
    simp only [finish, guarded_congr h, ← h.active]
    split
    · next hactive => rw [h.asked hactive]
    · rfl
  | _ => rfl

/-- So do all of them, in any order. -/
theorem outputs_congr (h : a.Alike b) (s : Subject) (order : List Stage) :
    a.outputs s order = b.outputs s order := by
  have hfinish : a.finish s = b.finish s := funext₂ (finish_congr h s)
  rw [outputs, outputs, hfinish]

theorem locally_congr (h : a.Alike b) (s : Subject) (detection : Detection) (metrics : Metrics)
    (o : Outputs) : a.locally s detection metrics o = b.locally s detection metrics o := by
  simp only [locally, guarded_congr h, h.testCases]

/-- Analyses of a source of one language are the same. -/
theorem freshly_congr (h : a.Alike b) (source : Text) (detection : Detection)
    (order : List Stage) : a.freshly source detection order = b.freshly source detection order := by
  simp only [freshly, analysisOf, h.language, guarded_congr h, outputs_congr h, locally_congr h]

/-- So are the results, but for how the language was found. -/
theorem analyze_congr (h : a.Alike b) (source : Text) (declared file : Option String)
    (hlanguage : (a.resolve source declared file).language =
      (b.resolve source declared file).language) :
    a.analyze source declared file =
      (b.analyze source declared file).detectedAs (a.resolve source declared file) := by
  cases hblank : source.isBlank with
  | true =>
    rw [analyze_of_isBlank a _ _ hblank, analyze_of_isBlank b _ _ hblank]
    simp only [AnalysisResult.empty, AnalysisResult.detectedAs, hlanguage]
  | false =>
    rw [analyze_eq_getD a _ _ hblank, analyze_eq_getD b _ _ hblank, freshly_congr h,
      result_freshly_detectedAs b source Stage.independent hlanguage.symm]
    cases (b.freshly source (b.resolve source declared file) Stage.independent).result with
    | none =>
      simp only [Option.map_none, Option.getD_none, AnalysisResult.empty,
        AnalysisResult.detectedAs, hlanguage]
    | some r => rfl

/-- A result tells how its language was found. -/
theorem analyze_detectedAs (a : Analyzer) (source : Text) (declared file : Option String) :
    (a.analyze source declared file).detectedAs (a.resolve source declared file) =
      a.analyze source declared file := by
  have hself : a.Alike a := ⟨fun _ => rfl, fun _ => rfl, rfl, fun _ => rfl, rfl, rfl⟩
  exact (analyze_congr hself source declared file rfl).symm

end

end Analyzer

/-! ## Configurations in use -/

namespace Analyzer

/-- The analyzer that a configuration leads to, if the tables have its fallback. -/
def under (c : Config) (server : Remote.Server) : Analyzer :=
  let gateway : Remote.Gateway := ⟨c.gateway, server⟩
  let detectors := Detector.battery c.detectorThresholds
  { registry := { Registry.builtin with fallback := c.fallbackLanguage }
    detectors := detectors
    gateway := gateway
    testCases := c.testCaseLimit
    salt := (saltValue c gateway detectors).fingerprint }

theorem ofConfig?_eq_ok_iff {c : Config} {server : Remote.Server} {a : Analyzer} :
    ofConfig? c server = .ok a ↔ c.fallbackLanguage ∈ Registry.builtin.names ∧ under c server = a := by
  unfold ofConfig? make? Registry.make?
  dsimp only
  split
  · next hknown => exact ⟨fun h => ⟨hknown, Except.ok.inj h⟩, fun h => congrArg _ h.2⟩
  · next hunknown => exact ⟨fun h => (nomatch h), fun h => absurd h.1 hunknown⟩

end Analyzer

/-- A configuration in use, with the service behind a server: its settings passed their checks, its
reals are such as the number format has, and its analyzer could be built. -/
structure Setup (server : Remote.Server) where
  config : Config
  analyzer : Analyzer
  checked : ∃ general thresholds gateway, Config.make? general thresholds gateway = .ok config
  proper : config.IsProper
  built : Analyzer.ofConfig? config server = .ok analyzer

namespace Setup

variable {server : Remote.Server} (s t : Setup server)

/-- The analyzer with a cache as the configuration asks for it. -/
def client : Client := ⟨s.analyzer, Analyzer.cacheFor s.config s.analyzer.salt []⟩

/-- What the salt is the fingerprint of. -/
def told : Value :=
  Analyzer.saltValue s.config ⟨s.config.gateway, server⟩
    (Detector.battery s.config.detectorThresholds)

/-- Whether two configurations ask at one address with one key. -/
def SameService : Prop :=
  s.config.gateway.valueOf "url" = t.config.gateway.valueOf "url" ∧
    s.config.gateway.valueOf "api_key" = t.config.gateway.valueOf "api_key"

theorem fallback_mem : s.config.fallbackLanguage ∈ Registry.builtin.names :=
  (Analyzer.ofConfig?_eq_ok_iff.mp s.built).1

theorem analyzer_eq : s.analyzer = .under s.config server :=
  (Analyzer.ofConfig?_eq_ok_iff.mp s.built).2.symm

theorem salt_eq : s.analyzer.salt = s.told.fingerprint := by
  rw [s.analyzer_eq]
  rfl

theorem hasPlainNames : s.analyzer.registry.HasPlainNames := by
  rw [s.analyzer_eq]
  intro name hname
  apply Registry.hasPlainNames_builtin
  rcases List.mem_cons.mp hname with rfl | hname
  · exact List.mem_cons_of_mem _ s.fallback_mem
  · exact List.mem_cons_of_mem _ hname

theorem separator_notMem_salt : Cache.separator ∉ s.analyzer.salt.toList := by
  rw [s.salt_eq]
  intro hmem
  cases Value.isAlphanum_of_mem_fingerprint hmem

theorem nodup_names_told : (s.told.entries.map (·.1)).Nodup := by
  change ["thresholds", "max_test_cases", "gateway", "detectors"].Nodup
  decide

theorem isProper_told : s.told.IsProper := by
  refine .table fun e he => ?_
  simp only [List.mem_cons, List.not_mem_nil, or_false] at he
  rcases he with rfl | rfl | rfl | rfl
  · exact s.proper.thresholds
  · exact Settings.isProper_valueOf s.proper.general _
  · change (Config.gatewayActivity s.config.gateway).IsProper
    unfold Config.gatewayActivity
    split
    · exact .flag _
    · exact Settings.isProper_valueOf s.proper.gateway _
  · refine .list fun v hv => ?_
    obtain ⟨name, -, rfl⟩ := List.mem_map.mp hv
    exact .text name

variable {s t}

/-- Configurations whose salts tell the same lead to analyzers that work alike, if they use the same
service. -/
theorem alike (htold : s.told.canonical = t.told.canonical)
    (hservice : s.analyzer.gateway.isActive = true → s.SameService t) :
    s.analyzer.Alike t.analyzer := by
  have hnormal := (Value.canonical_eq_iff s.isProper_told t.isProper_told).mp htold
  -- Each of the four entries is told, the names being the same in all salts.
  have hentry := Value.normal_find? s.nodup_names_told t.nodup_names_told hnormal
  have hthresholds := Option.some.inj (hentry "thresholds")
  have hcases := Option.some.inj (hentry "max_test_cases")
  have hactivity := Option.some.inj (hentry "gateway")
  obtain ⟨general, thresholds, gateway, hs⟩ := s.checked
  obtain ⟨general', thresholds', gateway', ht⟩ := t.checked
  have hvalues := Settings.normal_valueOf (Config.nodup_names_thresholds hs)
    (Config.nodup_names_thresholds ht) hthresholds
  rw [s.analyzer_eq] at hservice ⊢
  rw [t.analyzer_eq]
  have hactive : Config.gatewayActive s.config.gateway = Config.gatewayActive t.config.gateway := by
    rw [Bool.eq_iff_iff]
    exact (Config.gatewayActive_iff _).trans (hactivity ▸ (Config.gatewayActive_iff _).symm)
  exact {
    language := Registry.get_congr rfl rfl
    findings := fun _ => Detector.findings_congr (Config.detectorThresholds_alike hvalues) _ _
    active := hactive
    asked := fun hused =>
      Remote.Gateway.ask_congr rfl hactive (hservice hused).1 (hservice hused).2
    testCases := by
      change s.config.testCaseLimit = t.config.testCaseLimit
      rw [Config.testCaseLimit, Config.testCaseLimit, ← Value.cut_normal, hcases, Value.cut_normal]
    fault := rfl }

/-- So do configurations with one salt, unless two values in salts have one fingerprint. -/
theorem alike_of_salt
    (hfingerprint : s.told.fingerprint = t.told.fingerprint → s.told.canonical = t.told.canonical)
    (hservice : s.analyzer.salt = t.analyzer.salt → s.analyzer.gateway.isActive = true →
      s.SameService t)
    (hsalt : s.analyzer.salt = t.analyzer.salt) : s.analyzer.Alike t.analyzer := by
  have hprint : s.told.fingerprint = t.told.fingerprint := by rw [← s.salt_eq, hsalt, t.salt_eq]
  exact alike (hfingerprint hprint) (hservice hsalt)

/-- A language that is declared and known is the same to all configurations. -/
theorem resolve_of_known (s t : Setup server) {declared : Option String} {language : String}
    (hknown : Registry.builtin.resolve declared = some language) (source : Text)
    (file : Option String) :
    s.analyzer.resolve source declared file = t.analyzer.resolve source declared file := by
  have htaken (c : Config) := Analyzer.resolve_of_known (.under c server)
    ((Registry.resolve_congr rfl rfl declared).trans hknown) rfl source file
  rw [s.analyzer_eq, t.analyzer_eq, htaken, htaken]

end Setup

/-! ## The usual configuration with a service -/

/-- The address of a host. -/
def hostAddress (host : String) : String := "http://" ++ host ++ "/"

theorem isSet_hostAddress (host : String) : (Value.text (hostAddress host)).isSet = true := by
  simp [Value.isSet, hostAddress]

namespace Config

/-- The usual configuration with another fallback, and with a service at a host. -/
def serving (fallback host : String) : Config where
  general := Value.enter usual.general "default_language" (.text fallback)
  thresholds := usual.thresholds
  gateway :=
    Value.enter (Value.enter usual.gateway "enabled" (.flag true)) "url" (.text (hostAddress host))

theorem make?_serving (fallback host : String) :
    make? [("default_language", .text fallback)] []
      [("enabled", .flag true), ("url", .text (hostAddress host))] = .ok (serving fallback host) := by
  have hgateway : Settings.gateway? [("enabled", .flag true), ("url", .text (hostAddress host))] =
      .ok (serving fallback host).gateway := by
    change (require (!(Value.flag true).isSet || (Value.text (hostAddress host)).isSet) .urlNeeded >>=
      fun _ => _) = _
    rw [isSet_hostAddress]
    rfl
  rw [make?, hgateway]
  rfl

theorem gatewayActivity_serving (fallback host : String) :
    gatewayActivity (serving fallback host).gateway = .flag true :=
  congrArg Value.flag (isSet_hostAddress host)

end Config

namespace Setup

/-- That configuration in use. -/
def serving (server : Remote.Server) (fallback host : String)
    (hfallback : fallback ∈ Registry.builtin.names) : Setup server where
  config := .serving fallback host
  analyzer := .under (.serving fallback host) server
  checked := ⟨_, _, _, Config.make?_serving fallback host⟩
  proper := {
    general := Config.isProper_usual.general.enter "default_language" (.text fallback)
    thresholds := Config.isProper_usual.thresholds
    gateway := (Config.isProper_usual.gateway.enter "enabled" (.flag true)).enter "url"
      (.text (hostAddress host)) }
  built := Analyzer.ofConfig?_eq_ok_iff.mpr ⟨hfallback, rfl⟩

/-- What its salt tells has neither the fallback nor the host in it. -/
theorem told_serving {server : Remote.Server} {fallback other host elsewhere : String}
    (hfallback : fallback ∈ Registry.builtin.names) (hother : other ∈ Registry.builtin.names) :
    (serving server fallback host hfallback).told =
      (serving server other elsewhere hother).told := by
  change Value.table [_, _, ("gateway", Config.gatewayActivity
    (Config.serving fallback host).gateway), _] = Value.table [_, _, ("gateway",
      Config.gatewayActivity (Config.serving other elsewhere).gateway), _]
  rw [Config.gatewayActivity_serving, Config.gatewayActivity_serving]
  rfl

theorem python_mem : "python" ∈ Registry.builtin.names := by
  decide +kernel

theorem javascript_mem : "javascript" ∈ Registry.builtin.names := by
  decide +kernel

end Setup

/-! ## A shared store -/

namespace Call

/-- Calls agree if the analyzers with one salt among theirs work alike. -/
theorem agree_of_setups {server : Remote.Server} {setups : List (Setup server)} {calls : List Call}
    (hcalls : ∀ c ∈ calls, ∃ s ∈ setups, c.client = s.client)
    (halike : ∀ s ∈ setups, ∀ t ∈ setups, s.analyzer.salt = t.analyzer.salt →
      s.analyzer.Alike t.analyzer)
    (hdigests : Sha256.TellsApart (calls.map keyText)) : Agree calls := by
  apply agree_of_salts hdigests
  · intro c hc
    obtain ⟨s, -, hclient⟩ := hcalls c hc
    rw [hclient]
    exact s.hasPlainNames
  · intro c hc d hd htext
    obtain ⟨s, -, hclient⟩ := hcalls c hc
    obtain ⟨t, -, hother⟩ := hcalls d hd
    apply Cache.salt_eq_of_keyText _ _ htext
    · rw [hclient]
      exact s.separator_notMem_salt
    · rw [hother]
      exact t.separator_notMem_salt
  · intro c hc d hd hsalt source detection
    obtain ⟨s, hs, hclient⟩ := hcalls c hc
    obtain ⟨t, ht, hother⟩ := hcalls d hd
    rw [hclient, hother] at hsalt ⊢
    exact congrArg _ (Analyzer.freshly_congr (halike t ht s hs hsalt.symm) _ _ _)

/-- Configurations in use that share a store, however many, and calls of their analyzers, about any
sources, at any times, and with whatever is lost of the store in between. Where two of them have one
salt and use the service, they have to use it at one address with one key. Then those with one salt
find the same: in every source of a language that is declared and known, and also, but for how the
language was found, in every source that both take to be in one language. And every call is answered
as without the store. No two values in salts may have one fingerprint, and no two key texts one
digest, unless they are told alike. -/
theorem served_shared {server : Remote.Server} (setups : List (Setup server)) (calls : List Call)
    (hfingerprints : ∀ s ∈ setups, ∀ t ∈ setups,
      s.told.fingerprint = t.told.fingerprint → s.told.canonical = t.told.canonical)
    (hservice : ∀ s ∈ setups, ∀ t ∈ setups, s.analyzer.salt = t.analyzer.salt →
      s.analyzer.gateway.isActive = true → s.SameService t)
    (hcalls : ∀ c ∈ calls, ∃ s ∈ setups, c.client = s.client)
    (hdigests : Sha256.TellsApart (calls.map keyText)) :
    (∀ s ∈ setups, ∀ t ∈ setups, s.analyzer.salt = t.analyzer.salt →
      ∀ (source : Text) (declared file : Option String),
        ((Registry.builtin.resolve declared).isSome = true →
          s.analyzer.analyze source declared file = t.analyzer.analyze source declared file) ∧
        ((s.analyzer.resolve source declared file).language =
            (t.analyzer.resolve source declared file).language →
          s.analyzer.analyze source declared file =
            (t.analyzer.analyze source declared file).detectedAs
              (s.analyzer.resolve source declared file))) ∧
      served [] calls = calls.map alone := by
  have halike : ∀ s ∈ setups, ∀ t ∈ setups, s.analyzer.salt = t.analyzer.salt →
      s.analyzer.Alike t.analyzer := fun s hs t ht =>
    Setup.alike_of_salt (hfingerprints s hs t ht) (hservice s hs t ht)
  refine ⟨fun s hs t ht hsalt source declared file => ?_,
    served_of_agree (agree_of_setups hcalls halike hdigests)⟩
  have hsame := Analyzer.analyze_congr (halike s hs t ht hsalt) source declared file
  refine ⟨fun hknown => ?_, hsame⟩
  obtain ⟨language, hlanguage⟩ := Option.isSome_iff_exists.mp hknown
  have hresolve := s.resolve_of_known t hlanguage source file
  rw [hsame (congrArg _ hresolve), hresolve, Analyzer.analyze_detectedAs]

/-- Two fallbacks and one service: what is kept for a source in Python by its name serves the call
that declares it by an alias. -/
theorem served_two_fallbacks :
    let server : Remote.Server := fun _ => .response 200 "\x7b\x7d".toList
    let s := Setup.serving server "python" "one.test" Setup.python_mem
    let t := Setup.serving server "javascript" "one.test" Setup.javascript_mem
    let source : Text := "x = 1\n".toList
    let calls : List Call := [
      { client := s.client, source := source, declared := some "python" },
      { client := t.client, source := source, declared := some "py", now := 1 }]
    s.analyzer.salt = t.analyzer.salt ∧
      s.analyzer.analyze source (some "py") none = t.analyzer.analyze source (some "py") none ∧
      served [] calls = calls.map alone := by
  intro server s t source calls
  have htold : s.told = t.told := Setup.told_serving _ _
  have hsalt : s.analyzer.salt = t.analyzer.salt := by rw [s.salt_eq, t.salt_eq, htold]
  have hboth : ∀ u ∈ [s, t], u.told = t.told ∧ u.SameService t := by
    intro u hu
    rcases List.mem_pair.mp hu with rfl | rfl
    · exact ⟨htold, rfl, rfl⟩
    · exact ⟨rfl, rfl, rfl⟩
  have htexts : ∀ text ∈ calls.map keyText,
      text = Cache.keyText "python" "x = 1\n" t.analyzer.salt := by
    have hlanguages : calls.map (fun c => c.detection.language) = ["python", "python"] := by
      decide +kernel
    obtain ⟨hname, halias, -⟩ := by simpa only [calls, List.map_cons, List.cons.injEq] using hlanguages
    simp only [calls, List.map_cons, List.map_nil, List.forall_mem_cons, keyText, hname, halias]
    exact ⟨congrArg (Cache.keyText "python" "x = 1\n") hsalt, rfl, List.forall_mem_nil _⟩
  have h := served_shared [s, t] calls
    (fun u hu v hv _ => by rw [(hboth u hu).1, (hboth v hv).1])
    (fun u hu v hv _ _ =>
      ⟨(hboth u hu).2.1.trans (hboth v hv).2.1.symm, (hboth u hu).2.2.trans (hboth v hv).2.2.symm⟩)
    (by simp [calls])
    (fun _ hone _ htwo _ => (htexts _ hone).trans (htexts _ htwo).symm)
  exact ⟨hsalt, (h.1 s (by simp) t (by simp) hsalt source (some "py") none).1 (by decide +kernel),
    h.2⟩

/-- Two addresses, at one of which five errors are found. The salts tell the same, and the analyses
differ. A call behind the other address is served the errors of the first one. -/
theorem not_told_address :
    let server : Remote.Server := fun request =>
      if request.url = hostAddress "one.test" then
        .response 200 "\x7b\"errors\": [\x7b\x7d, \x7b\x7d, \x7b\x7d, \x7b\x7d, \x7b\x7d]\x7d".toList
      else .response 200 "\x7b\x7d".toList
    let s := Setup.serving server "python" "one.test" Setup.python_mem
    let t := Setup.serving server "python" "two.test" Setup.python_mem
    let source : Text := "x = 1\n".toList
    let first : Call := { client := s.client, source := source, declared := some "python" }
    let second : Call :=
      { client := t.client, source := source, declared := some "python", now := 1 }
    s.told = t.told ∧ s.analyzer.salt = t.analyzer.salt ∧
      s.analyzer.analyze source (some "python") none ≠
        t.analyzer.analyze source (some "python") none ∧
      (served [] [first, second]).map (·.grammar.errors.length) = [5, 5] ∧
      [first, second].map (fun c => c.alone.grammar.errors.length) = [5, 0] := by
  intro server s t source first second
  have htold : s.told = t.told := Setup.told_serving _ _
  have hsalt : s.analyzer.salt = t.analyzer.salt := by rw [s.salt_eq, t.salt_eq, htold]
  have hblank : source.isBlank = false := by decide +kernel
  have halone : [first, second].map (fun c => c.alone.grammar.errors.length) = [5, 0] := by
    decide +kernel
  have hkey : first.key = second.key := by
    have hlanguages : first.detection.language = second.detection.language := by decide +kernel
    simp only [key, hlanguages]
    exact congrArg (Cache.keyOf _ _) hsalt
  obtain ⟨r, hfresh, hr⟩ : ∃ r, first.fresh = some r ∧
      (r.remoteUsed, r.grammar.errors.length) = (true, 5) := by
    have hfound : first.fresh.map (fun r => (r.remoteUsed, r.grammar.errors.length)) =
        some (true, 5) := by
      decide +kernel
    exact Option.map_eq_some_iff.mp hfound
  obtain ⟨hused, herrors⟩ := Prod.mk.inj hr
  have hkeeps : first.client.analyzer.keeps r = true := by rw [Analyzer.keeps, hused, Bool.true_or]
  have hlimit : (Value.whole 100).quantity? = some (.ofInt 100) := rfl
  have hexpires : Cache.expiry? (.whole 300) 0 = some (some (.finite 300)) := by decide +kernel
  have hserved : served [] [first, second] = [r, r.detectedAs second.detection] :=
    served_again hblank hblank hkey hfresh hkeeps rfl rfl hlimit (by decide +kernel) hexpires
      (by decide +kernel) (by decide +kernel) fun _ => rfl
  refine ⟨htold, hsalt, ?_, ?_, halone⟩
  · intro h
    have hsame : first.alone = second.alone := h
    simp only [List.map_cons, List.map_nil, hsame, List.cons.injEq] at halone
    omega
  · rw [hserved]
    simp only [List.map_cons, List.map_nil, AnalysisResult.detectedAs, herrors]

end Call
end SourceAudit
