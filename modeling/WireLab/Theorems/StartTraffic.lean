import WireLab.Logic.Sessions

/-!
# Starting traffic

`start_traffic` checks its settings and then stores them, before it constructs the
generator. The generator's constructor asks for two hosts, which nothing before it
does: a topology with fewer makes the call throw with its settings applied
(`start_traffic_throws`). With two hosts or more it starts or refuses
(`start_traffic_iff`).
-/

namespace WireLab

open Base

variable {δ β τ : Type}

namespace Session

/-- Traffic runs with the settings that were asked for, and a generator of them. -/
structure TrafficStarted (scenario : Bytes) (packetsPerTick frameSize : Int32) (seed : UInt64)
    (backend : Bytes) (session : Session δ β τ) : Prop where
  running : session.trafficRunning = true
  scenario : trafficScenarioFromString scenario = .ok session.trafficScenario
  packetsPerTick : session.packetsPerTick = packetsPerTick
  frameSize : session.frameSize = frameSize
  seed : session.trafficSeed = seed
  backend : session.activeBackend = backend
  generator : ∃ generator : DeterministicTrafficGenerator,
    session.trafficGenerator = some generator ∧ generator.sequence = 0 ∧
      generator.config =
        { scenario := session.trafficScenario
          seed := session.trafficSeed
          frameSize := .ofNat session.frameSize.toInt.toNat
          hostCount := .ofNat session.hosts.length }
  analyzer : session.trafficAnalyzer = some (.cpu [])

/-- The call returned with traffic started, or with a message and nothing else. -/
def StartsOrRefuses (env : SessionEnvironment δ β τ) (scenario : Bytes)
    (packetsPerTick frameSize : Int32) (seed : UInt64) (backend : Bytes)
    (session : Session δ β τ) : Prop :=
  ∃ session', session.startTraffic env scenario packetsPerTick frameSize seed backend =
      (.returned, session') ∧
    (TrafficStarted scenario packetsPerTick frameSize seed backend session' ∨
      OnlyStatus session session')

/-- The settings that `start_traffic` itself turns away. -/
def StartRefused (env : SessionEnvironment δ β τ) (scenario : Bytes)
    (packetsPerTick frameSize : Int32) (backend : Bytes) (session : Session δ β τ) : Prop :=
  session.hasTopology = false ∨ (∀ parsed, trafficScenarioFromString scenario ≠ .ok parsed) ∨
    packetsPerTick.toInt ≤ 0 ∨ frameSize.toInt < 14 ∨ backend ∉ env.availableBackends

variable {env : SessionEnvironment δ β τ} {scenario backend : Bytes}
  {packetsPerTick frameSize : Int32} {session : Session δ β τ}

/-- A refused call shows why. -/
theorem startTraffic_of_refused (seed : UInt64)
    (hrefused : StartRefused env scenario packetsPerTick frameSize backend session) :
    ∃ session', session.startTraffic env scenario packetsPerTick frameSize seed backend =
      (.returned, session') ∧ OnlyStatus session session' := by
  unfold startTraffic
  by_cases htopology : session.hasTopology = true
  · simp only [htopology, Bool.not_true, Bool.false_eq_true, if_false]
    cases hparsed : trafficScenarioFromString scenario with
    | error e => exact ⟨_, rfl, _, rfl⟩
    | ok parsed =>
        simp only
        by_cases hsettings : packetsPerTick.toInt ≤ 0 ∨ frameSize.toInt < 14
        · rw [if_pos hsettings]
          exact ⟨_, rfl, _, rfl⟩
        · rw [if_neg hsettings]
          have hunavailable : backend ∉ env.availableBackends := by
            rcases hrefused with hnone | hunknown | hticks | hshort | hbackend
            · rw [htopology] at hnone
              cases hnone
            · exact absurd hparsed (hunknown parsed)
            · exact absurd (.inl hticks) hsettings
            · exact absurd (.inr hshort) hsettings
            · exact hbackend
          rw [if_pos hunavailable]
          exact ⟨_, rfl, _, rfl⟩
  · simp only [htopology, Bool.not_false, if_true]
    exact ⟨_, rfl, _, rfl⟩

/-- A tick size that the checks let through is a size a generator takes. -/
theorem ethernetHeaderSize_le_frameSize (hsize : ¬frameSize.toInt < 14) :
    .ofNat ethernetHeaderSize ≤ UInt64.ofNat frameSize.toInt.toNat := by
  have hbound := Int32.toInt_lt frameSize
  rw [UInt64.le_iff_toNat_le, UInt64.toNat_ofNat', UInt64.toNat_ofNat']
  simp only [ethernetHeaderSize]
  omega

/-- The number of hosts a generator is given is enough exactly when there are two
hosts, and not a multiple of 2^32 more than none or one. -/
theorem two_le_hostCount (hosts : Nat) :
    2 ≤ UInt32.ofNat (max 1 hosts) ↔ 2 ≤ hosts % 2 ^ 32 := by
  rw [UInt32.le_iff_toNat_le, UInt32.toNat_ofNat']
  change 2 ≤ _ ↔ _
  omega

/-- A call that is not refused stores the settings and constructs. -/
theorem startTraffic_of_admitted (seed : UInt64)
    (hadmitted : ¬StartRefused env scenario packetsPerTick frameSize backend session) :
    ∃ parsed, trafficScenarioFromString scenario = .ok parsed ∧ ¬frameSize.toInt < 14 ∧
      backend ∈ env.availableBackends ∧
      session.startTraffic env scenario packetsPerTick frameSize seed backend =
        (session.withTrafficSettings parsed packetsPerTick frameSize seed backend).constructTraffic
          env := by
  simp only [StartRefused, not_or, not_forall, not_not, Bool.not_eq_false] at hadmitted
  obtain ⟨htopology, ⟨parsed, hparsed⟩, hticks, hsize, hbackend⟩ := hadmitted
  refine ⟨parsed, hparsed, hsize, hbackend, ?_⟩
  unfold startTraffic
  simp only [htopology, Bool.not_true, Bool.false_eq_true, if_false, hparsed, hticks, hsize,
    or_self, hbackend, not_true_eq_false]

/-- With a host, the generator is told how many there are. -/
private theorem generatorConfig_eq (hhost : 1 ≤ session.hosts.length) :
    session.generatorConfig =
      { scenario := session.trafficScenario
        seed := session.trafficSeed
        frameSize := .ofNat session.frameSize.toInt.toNat
        hostCount := .ofNat session.hosts.length } := by
  unfold generatorConfig
  rw [Nat.max_eq_right hhost]

/-- What the CPU backend constructs: a generator, where there are hosts enough. -/
private theorem constructTraffic_cpu (env : SessionEnvironment δ β τ) (session : Session δ β τ)
    (hbackend : session.activeBackend = bytes "CPU")
    (hsize : ¬session.frameSize.toInt < 14) :
    (2 ≤ session.hosts.length % 2 ^ 32 →
      ∃ generator : DeterministicTrafficGenerator,
        generator.sequence = 0 ∧ generator.config = session.generatorConfig ∧
        session.constructTraffic env =
          (.returned, (session.withGenerator (some generator) (some (.cpu []))).runTraffic)) ∧
    (¬2 ≤ session.hosts.length % 2 ^ 32 → session.constructTraffic env = (.threw, session)) := by
  have hanalyzer : analyzerFor env session.activeBackend = some (.cpu []) := by rw [hbackend]; rfl
  have hsized : .ofNat ethernetHeaderSize ≤ session.generatorConfig.frameSize :=
    ethernetHeaderSize_le_frameSize hsize
  have hcount : 2 ≤ session.generatorConfig.hostCount ↔ _ := two_le_hostCount session.hosts.length
  unfold constructTraffic DeterministicTrafficGenerator.create
  rw [dif_pos hsized]
  constructor
  · intro htwo
    rw [dif_pos (hcount.mpr htwo)]
    simp only [hanalyzer]
    exact ⟨_, rfl, rfl, rfl⟩
  · intro hfew
    rw [dif_neg (mt hcount.mp hfew)]

/-- **Starting traffic is all or nothing where there are hosts enough.** For every
session, whatever its topology and whether or not traffic runs, and all settings of
the CPU backend or of one that is not available, `start_traffic` returns with traffic
started as asked or with nothing but a message changed, if and only if it turns the
call away itself or the topology has two hosts (and not a multiple of 2^32 more than
none or one). -/
theorem start_traffic_iff (env : SessionEnvironment δ β τ) (scenario : Bytes)
    (packetsPerTick frameSize : Int32) (seed : UInt64) (backend : Bytes)
    (hcpu : backend ∉ env.accelerated) (session : Session δ β τ) :
    StartsOrRefuses env scenario packetsPerTick frameSize seed backend session ↔
      StartRefused env scenario packetsPerTick frameSize backend session ∨
        2 ≤ session.hosts.length % 2 ^ 32 := by
  by_cases hrefused : StartRefused env scenario packetsPerTick frameSize backend session
  · obtain ⟨session', hcall, hstatus⟩ := startTraffic_of_refused seed hrefused
    exact ⟨fun _ => .inl hrefused, fun _ => ⟨session', hcall, .inr hstatus⟩⟩
  · obtain ⟨parsed, hparsed, hsize, hbackend, hcall⟩ := startTraffic_of_admitted seed hrefused
    obtain rfl : backend = bytes "CPU" := (List.mem_cons.mp hbackend).resolve_right hcpu
    obtain ⟨hstarts, hthrows⟩ := constructTraffic_cpu env
      (session.withTrafficSettings parsed packetsPerTick frameSize seed (bytes "CPU")) rfl hsize
    constructor
    · rintro ⟨session', hreturned, _⟩
      by_contra hneither
      have hthrew := hthrows fun htwo => hneither (.inr htwo)
      rw [← hcall, hreturned] at hthrew
      cases hthrew
    · rintro (hrefused' | htwo)
      · exact absurd hrefused' hrefused
      · obtain ⟨generator, hsequence, hconfig, hconstructed⟩ := hstarts htwo
        have hhost : 1 ≤ session.hosts.length := by omega
        refine ⟨_, hcall.trans hconstructed, .inl ?_⟩
        exact
          { running := rfl
            scenario := hparsed
            packetsPerTick := rfl
            frameSize := rfl
            seed := rfl
            backend := rfl
            generator := ⟨generator, rfl, hsequence, hconfig.trans (generatorConfig_eq hhost)⟩
            analyzer := rfl }

theorem start_traffic_iff_twoHosts :
    StartsOrRefuses cpuBuild (bytes "mixed-traffic") 64 128 42 (bytes "CPU") twoHosts :=
  (start_traffic_iff cpuBuild (bytes "mixed-traffic") 64 128 42 (bytes "CPU") (by decide)
    twoHosts).mpr (.inr (by decide +kernel))

/-- With one host the call throws, traffic does not run, and the tick size is the one
that was asked for. -/
theorem start_traffic_throws :
    oneHost.hasTopology = true ∧ oneHost.packetsPerTick = 256 ∧
    (oneHost.startTraffic cpuBuild (bytes "mixed-traffic") 64 128 42 (bytes "CPU")).1 = .threw ∧
    (oneHost.startTraffic cpuBuild (bytes "mixed-traffic") 64 128 42
      (bytes "CPU")).2.packetsPerTick = 64 ∧
    ¬StartsOrRefuses cpuBuild (bytes "mixed-traffic") 64 128 42 (bytes "CPU") oneHost := by
  have hthrew :
      (oneHost.startTraffic cpuBuild (bytes "mixed-traffic") 64 128 42 (bytes "CPU")).1 =
        .threw := by decide +kernel
  refine ⟨by decide +kernel, by decide +kernel, hthrew, by decide +kernel, ?_⟩
  rintro ⟨session', hcall, _⟩
  rw [hcall] at hthrew
  cases hthrew

end Session
end WireLab
