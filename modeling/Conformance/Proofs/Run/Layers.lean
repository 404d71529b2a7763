import Conformance.Run.Command
import Conformance.Proofs.Config.Load
/-!
# Layers of a configuration

A command works with the configuration that is loaded, with the parts of the target that the environment sets
and the base URL the command line gives in place of its own. `Config.Layered` says so part by part. Nothing else
moves, and the whole is checked again.
-/

namespace Conformance

namespace Config

/-- A configuration with the base URL the command line gives, if it gives one. -/
def withBaseUrl (c : Config) : Option String → Config
  | none => c
  | some url => { c with target := { c.target with baseUrl := Text.trim url } }

/-- What the layers above a loaded configuration make of it, given the environment and the base URL of the command
line. -/
structure Layered (c loaded : Config) (env : Environment) (url : Option String) : Prop where
  baseUrl : ∃ named, env.Holds .baseUrl named ∧
    c.target.baseUrl = ((url <|> named).map Text.trim).getD loaded.target.baseUrl
  timeout : ∃ seconds, env.Counts .timeoutSeconds seconds ∧
    c.target.timeoutMs.toNat = (seconds.map (1000 * ·)).getD loaded.target.timeoutMs.toNat
  concurrency : ∃ n, env.Counts .concurrency n ∧
    c.target.maxConcurrency.toNat = n.getD loaded.target.maxConcurrency.toNat
  resources : c.resources = loaded.resources
  routing : c.routing = loaded.routing
  workflow : c.workflow = loaded.workflow
  audit : c.audit = loaded.audit
  baseDir : c.baseDir = loaded.baseDir

variable {c loaded : Config} {env : Environment} {url : Option String} {o : Overrides}

theorem baseUrl_withBaseUrl {named : Option String} (h : o.baseUrl = named.map Text.trim) :
    ((loaded.override o).withBaseUrl url).target.baseUrl =
      ((url <|> named).map Text.trim).getD loaded.target.baseUrl := by
  rw [override, Target.override, h]
  cases url <;> cases named <;> rfl

/-- A time within the limits is told by its milliseconds, as none that is too long gets there. -/
theorem toNat_eq_iff_milliseconds {ms loaded : UInt64} {seconds : Option UInt64} (hms : ms.toNat ≤ 300000) :
    ms.toNat = ((seconds.map UInt64.toNat).map (1000 * ·)).getD loaded.toNat ↔
      ms = (seconds.map milliseconds).getD loaded := by
  rw [← UInt64.toNat_inj]
  cases seconds with
  | none => rfl
  | some n =>
    simp only [Option.map_some, Option.getD_some, toNat_milliseconds, UInt64.size]
    omega

theorem toNat_eq_iff_getD {m loaded : UInt64} {n : Option UInt64} :
    m.toNat = (n.map UInt64.toNat).getD loaded.toNat ↔ m = n.getD loaded := by
  rw [← UInt64.toNat_inj]
  cases n <;> rfl

/-- Under a limit on times, the layers are told by the parts they change. -/
theorem layered_iff (hms : c.target.timeoutMs.toNat ≤ 300000) : Layered c loaded env url ↔
    ∃ o, env.overrides = .ok o ∧ c = (loaded.override o).withBaseUrl url := by
  constructor
  · rintro ⟨⟨named, hnamed, hbase⟩, ⟨seconds, hseconds, htimeout⟩, ⟨n, hn, hconcurrency⟩, hresources, hrouting,
      hworkflow, haudit, hdir⟩
    obtain ⟨seconds, rfl⟩ := hseconds.exists_word
    obtain ⟨n, rfl⟩ := hn.exists_word
    rw [toNat_eq_iff_milliseconds hms] at htimeout
    rw [toNat_eq_iff_getD] at hconcurrency
    let o : Overrides := ⟨named.map Text.trim, seconds, n⟩
    refine ⟨o, Environment.overrides_eq_ok_iff.2 ⟨⟨named, hnamed, rfl⟩, hseconds, hn⟩, ?_⟩
    rw [← baseUrl_withBaseUrl (o := o) rfl] at hbase
    obtain ⟨⟨base, timeout, concurrency⟩, resources, routing, workflow, audit, dir⟩ := c
    cases url <;> simp_all [withBaseUrl, override, Target.override, o]
  · rintro ⟨o, ho, rfl⟩
    obtain ⟨⟨named, hnamed, hbase⟩, hseconds, hn⟩ := Environment.overrides_eq_ok_iff.1 ho
    have htimeout : ((loaded.override o).withBaseUrl url).target.timeoutMs =
        (o.timeoutSeconds.map milliseconds).getD loaded.target.timeoutMs := by cases url <;> rfl
    have hconcurrency : ((loaded.override o).withBaseUrl url).target.maxConcurrency =
        o.maxConcurrency.getD loaded.target.maxConcurrency := by cases url <;> rfl
    refine ⟨⟨named, hnamed, baseUrl_withBaseUrl hbase⟩, ⟨_, hseconds, (toNat_eq_iff_milliseconds hms).2 htimeout⟩,
      ⟨_, hn, toNat_eq_iff_getD.2 hconcurrency⟩, ?_, ?_, ?_, ?_, ?_⟩ <;> cases url <;> rfl

end Config

namespace Program

variable [SettingsLibrary] [UrlLibrary] {s : Surroundings} {o : Options} {c loaded : Config} {layer : Overrides}

/-- What the layers make of a loaded configuration is checked once more. -/
theorem configuration_eq (hload : Config.load s.disk o.config s.environment = .ok loaded)
    (hover : s.environment.overrides = .ok layer) :
    configuration s o = ((loaded.override layer).withBaseUrl o.baseUrl).fault?.elim
      (.ok ((loaded.override layer).withBaseUrl o.baseUrl)) fun f => .error (.override f) := by
  cases hurl : o.baseUrl <;>
    simp only [configuration, hload, hover, hurl, Config.withBaseUrl, bind, Except.bind, Except.mapError, pure,
      Except.pure, throw, throwThe, MonadExceptOf.throw] <;>
    generalize Config.fault? _ = fault <;>
    cases fault <;> rfl

theorem exists_of_configuration (h : configuration s o = .ok c) : ∃ loaded layer,
    Config.load s.disk o.config s.environment = .ok loaded ∧ s.environment.overrides = .ok layer := by
  unfold configuration at h
  obtain ⟨loaded, hload, h⟩ := do_eq_ok_iff.1 h
  obtain ⟨layer, hover, -⟩ := do_eq_ok_iff.1 h
  exact ⟨loaded, layer, mapError_eq_ok_iff.1 hload, mapError_eq_ok_iff.1 hover⟩

theorem configuration_eq_ok_iff : configuration s o = .ok c ↔
    ∃ loaded layer, Config.load s.disk o.config s.environment = .ok loaded ∧ s.environment.overrides = .ok layer ∧
      c = (loaded.override layer).withBaseUrl o.baseUrl ∧ c.Valid := by
  constructor
  · intro h
    obtain ⟨loaded, layer, hload, hover⟩ := exists_of_configuration h
    refine ⟨loaded, layer, hload, hover, ?_⟩
    rw [configuration_eq hload hover] at h
    cases hfault : ((loaded.override layer).withBaseUrl o.baseUrl).fault? with
    | none =>
      rw [hfault] at h
      cases h
      exact ⟨rfl, Config.fault?_eq_none_iff.1 hfault⟩
    | some f =>
      rw [hfault] at h
      cases h
  · rintro ⟨loaded, layer, hload, hover, rfl, hvalid⟩
    rw [configuration_eq hload hover, Config.fault?_eq_none_iff.2 hvalid]
    rfl

/-- A command has a configuration exactly if one is loaded, the environment is taken, and what the layers make of
the loaded one is valid; and then it has that one. The base URL is that of the command line, else that of the
environment, either without the blanks around it, and else the loaded one. The time is a thousand milliseconds for
each second the environment sets, and the number of exchanges is the one it sets; both are the loaded ones if it sets
none. Everything else is as it was loaded. Overriding a second time changes nothing more. -/
theorem configuration_layered (s : Surroundings) (o : Options) :
    (∀ c, configuration s o = .ok c ↔ ∃ loaded, Config.load s.disk o.config s.environment = .ok loaded ∧
      loaded.Valid ∧ c.Layered loaded s.environment o.baseUrl ∧ c.Valid) ∧
    ∀ (c : Config) (layer : Overrides), (c.override layer).override layer = c.override layer := by
  refine ⟨fun c => ?_, Config.override_override⟩
  rw [configuration_eq_ok_iff]
  constructor
  · rintro ⟨loaded, layer, hload, hover, hc, hvalid⟩
    exact ⟨loaded, hload, Config.valid_of_load hload,
      (Config.layered_iff hvalid.target.timeout.2).2 ⟨layer, hover, hc⟩, hvalid⟩
  · rintro ⟨loaded, hload, -, hlayered, hvalid⟩
    obtain ⟨layer, hover, hc⟩ := (Config.layered_iff hvalid.target.timeout.2).1 hlayered
    exact ⟨loaded, layer, hload, hover, hc, hvalid⟩

end Program

end Conformance
