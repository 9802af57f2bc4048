import RpkiOverlap.Proofs.Pattern.Anchored
import RpkiOverlap.Proofs.Result
import RpkiOverlap.Proofs.Text.Blank

/-! # Configurations from settings and step by step

A configuration comes about in two ways: from settings at once (`Settings.config`), or step by step
(`Settings.build`), where every rule and every pattern is added to what is there.

* Adding rules, or patterns, one by one is to compile all of them and to add them together
  (`foldlM_ignore`, `foldlM_track`).  So both ways lead to the same, once a blank trust anchor is
  refused (`config_of_blank`, `config_eq_build`).
* There is no configuration exactly if some source is no pattern, and the first such source is
  named (`build_eq_error_iff`).
* A configuration has the choices of its settings (`Config.Keeps`, `build_eq_ok_iff`): every rule
  and every pattern once and in order.  So the first rule that a URI fits is the first in the
  settings (`Config.Keeps.ignoredBy_eq_some_iff`).

`config_exact` puts this together.
-/
namespace RpkiOverlap

/-- A configuration has the choices of settings. -/
structure Config.Keeps (c : Config) (s : Settings) : Prop where
  trustAnchor : c.trustAnchor = s.trustAnchor
  ignored : c.ignored.map (fun rule => (rule.pattern.source, rule.description)) = s.ignored
  tracked : c.tracked.map (·.source) = s.tracked
  grace : c.grace = s.grace
  limits : c.limits = s.limits

namespace Settings

/-- The configuration that is built step by step: rules, then patterns, then the period of grace, if
there is one, and the limits. -/
def build (s : Settings) : Except ConfigError Config := do
  let c ← s.ignored.foldlM (fun c r => c.ignore r.1 r.2) (.new s.trustAnchor)
  let c ← s.tracked.foldlM Config.track c
  return (s.grace.elim c c.withGrace).withLimits s.limits

/-- The sources of patterns, in the order in which they are compiled. -/
def sources (s : Settings) : List String := s.ignored.map Prod.fst ++ s.tracked

/-! ## Both ways -/

theorem foldlM_ignore (rules : List (String × String)) (c : Config) :
    rules.foldlM (fun c r => c.ignore r.1 r.2) c =
      (rules.mapM rule).map fun rs => { c with ignored := c.ignored ++ rs } := by
  refine foldlM_eq_mapM (fun c rs => { c with ignored := c.ignored ++ rs }) (fun c => ?_)
    (fun c r rs => ?_) (fun c r => ?_) c
  · rw [List.append_nil]
  · rw [List.append_assoc, List.singleton_append]
  · rw [Config.ignore, rule]
    cases compilePattern r.1 <;> rfl

theorem foldlM_track (patterns : List String) (c : Config) :
    patterns.foldlM Config.track c =
      (patterns.mapM compilePattern).map fun ps => { c with tracked := c.tracked ++ ps } := by
  refine foldlM_eq_mapM (fun c ps => { c with tracked := c.tracked ++ ps }) (fun c => ?_)
    (fun c p ps => ?_) (fun c source => rfl) c
  · rw [List.append_nil]
  · rw [List.append_assoc, List.singleton_append]

/-- The configuration that is built, when everything is compiled first. -/
theorem build_eq (s : Settings) : s.build = do
    let ignored ← s.ignored.mapM rule
    let tracked ← s.tracked.mapM compilePattern
    return ⟨s.trustAnchor, ignored, tracked, s.grace, s.limits⟩ := by
  rw [build, foldlM_ignore]
  cases s.ignored.mapM rule with
  | error e => rfl
  | ok ignored =>
    show (s.tracked.foldlM Config.track _ >>= _) = (s.tracked.mapM compilePattern >>= _)
    rw [foldlM_track]
    cases s.tracked.mapM compilePattern with
    | error e => rfl
    | ok tracked => cases s.grace <;> rfl

theorem config_of_blank {s : Settings} (h : Text.Blank s.trustAnchor.toList) :
    s.config = .error .blankTrustAnchor := by
  rw [config, if_pos (Text.trim_eq_nil_iff.2 h)]
  rfl

theorem config_of_not_blank {s : Settings} (h : ¬ Text.Blank s.trustAnchor.toList) :
    s.config = s.build := by
  rw [config, if_neg (mt Text.trim_eq_nil_iff.1 h), build_eq]

/-! ## Errors -/

theorem compilePattern_eq_error_iff {source : String} {e : ConfigError} :
    compilePattern source = .error e ↔
      (¬ ∃ p, compilePattern source = .ok p) ∧ e = .badPattern source := by
  constructor
  · intro h
    refine ⟨?_, eq_badPattern_of_compilePattern h⟩
    rintro ⟨p, hp⟩
    cases h.symm.trans hp
  · rintro ⟨hnone, rfl⟩
    cases h : compilePattern source with
    | ok p => exact absurd ⟨p, h⟩ hnone
    | error e => rw [eq_badPattern_of_compilePattern h]

/-- A rule is compiled from its source, and keeps its description. -/
theorem rule_eq_ok_iff {r : String × String} {i : IgnoreRule} :
    rule r = .ok i ↔ (i.pattern.source, i.description) = r := by
  obtain ⟨source, description⟩ := r
  obtain ⟨p, text⟩ := i
  rw [rule, Prod.mk.injEq, ← compilePattern_eq_ok_iff, eq_comm (a := text)]
  cases compilePattern source <;> simp [Except.map]

theorem rule_eq_error_iff {r : String × String} {e : ConfigError} :
    rule r = .error e ↔ compilePattern r.1 = .error e := by
  rw [rule]
  cases compilePattern r.1 <;> simp [Except.map]

theorem exists_rule_iff {r : String × String} :
    (∃ i, rule r = .ok i) ↔ ∃ p, compilePattern r.1 = .ok p := by
  rw [rule]
  cases compilePattern r.1 <;> simp [Except.map]

/-- Nothing is built exactly if some source is no pattern, and the first one is to blame. -/
theorem build_eq_error_iff {s : Settings} {e : ConfigError} :
    s.build = .error e ↔ StopsAt compilePattern s.sources e := by
  have hstops : StopsAt compilePattern (s.ignored.map Prod.fst) e ↔ StopsAt rule s.ignored e := by
    rw [stopsAt_map]
    simp only [StopsAt, exists_rule_iff, rule_eq_error_iff]
  have hcompiled : (∀ t ∈ s.ignored.map Prod.fst, ∃ p, compilePattern t = .ok p) ↔
      ∃ rs, s.ignored.mapM rule = .ok rs := by
    rw [exists_mapM_eq_ok_iff, List.forall_mem_map]
    simp only [exists_rule_iff]
  rw [build_eq, sources, stopsAt_append, hstops, hcompiled, ← mapM_eq_error_iff,
    ← mapM_eq_error_iff]
  cases s.ignored.mapM rule with
  | error e' => simp [bind, Except.bind]
  | ok rs => cases s.tracked.mapM compilePattern <;> simp [bind, Except.bind, pure, Except.pure]

/-! ## Choices -/

/-- What is built has the choices of the settings, and every configuration with them is built. -/
theorem build_eq_ok_iff {s : Settings} {c : Config} : s.build = .ok c ↔ c.Keeps s := by
  have hignored : ∀ rs, s.ignored.mapM rule = .ok rs ↔
      rs.map (fun i => (i.pattern.source, i.description)) = s.ignored :=
    fun rs => mapM_eq_ok_iff_map_eq fun _ _ => rule_eq_ok_iff
  have htracked : ∀ ps, s.tracked.mapM compilePattern = .ok ps ↔ ps.map (·.source) = s.tracked :=
    fun ps => mapM_eq_ok_iff_map_eq fun _ _ => compilePattern_eq_ok_iff
  rw [build_eq]
  constructor
  · intro h
    obtain ⟨rs, hrs, h⟩ := bind_eq_ok.1 h
    obtain ⟨ps, hps, h⟩ := bind_eq_ok.1 h
    obtain rfl := Except.ok.inj h
    exact ⟨rfl, (hignored rs).1 hrs, (htracked ps).1 hps, rfl, rfl⟩
  · obtain ⟨trustAnchor, rs, ps, grace, limits⟩ := c
    rintro ⟨rfl, hrs, hps, rfl, rfl⟩
    exact bind_eq_ok.2 ⟨rs, (hignored rs).2 hrs, bind_eq_ok.2 ⟨ps, (htracked ps).2 hps, rfl⟩⟩

/-- The source is that of a pattern, and the text fits it. -/
def Matches (source text : String) : Prop :=
  ∃ p, compilePattern source = .ok p ∧ p.fits text = true

theorem matches_source_iff {p : Pattern} {text : String} :
    Matches p.source text ↔ p.fits text = true := by
  have hp : compilePattern p.source = .ok p := compilePattern_eq_ok_iff.2 rfl
  constructor
  · rintro ⟨q, hq, hfits⟩
    obtain rfl := Except.ok.inj (hp.symm.trans hq)
    exact hfits
  · intro hfits
    exact ⟨p, hp, hfits⟩

end Settings

/-- A URI is ignored by the first rule of the settings that it matches. -/
theorem Config.Keeps.ignoredBy_eq_some_iff {c : Config} {s : Settings} (h : c.Keeps s)
    {uri description : String} : c.ignoredBy uri = some description ↔
      ∃ before source after, s.ignored = before ++ (source, description) :: after ∧
        Settings.Matches source uri ∧ ∀ r ∈ before, ¬ Settings.Matches r.1 uri := by
  rw [ignoredBy, ← h.ignored]
  simp only [Option.map_eq_some_iff, List.find?_eq_some_iff_append, List.map_eq_append_iff,
    List.map_eq_cons_iff]
  constructor
  · rintro ⟨rule, ⟨hfits, before, after, heq, hbefore⟩, rfl⟩
    refine ⟨_, rule.pattern.source, _, ⟨before, _, heq, rfl, rule, after, rfl, rfl, rfl⟩,
      Settings.matches_source_iff.2 hfits, ?_⟩
    rw [List.forall_mem_map]
    intro r hr
    simpa [Settings.matches_source_iff] using hbefore r hr
  · rintro ⟨_, _, _, ⟨before, _, heq, rfl, rule, after, rfl, hrule, rfl⟩, hmatches, hbefore⟩
    obtain ⟨rfl, rfl⟩ := Prod.mk.inj hrule
    refine ⟨rule, ⟨Settings.matches_source_iff.1 hmatches, before, after, heq, ?_⟩, rfl⟩
    rw [List.forall_mem_map] at hbefore
    intro r hr
    simpa [Settings.matches_source_iff] using hbefore r hr

/-- **Settings and steps make one configuration.**  A blank trust anchor is refused, whatever else
the settings are.  With any other the configuration is the one that is built step by step.  If some
source is no pattern, the first one is named, rules before patterns.  Otherwise the configuration
has every rule and every pattern once and in order, and a URI is ignored by the first rule that it
matches. -/
theorem Settings.config_exact (s : Settings) :
    (s.config.mapError ConfigError.fault = .error (.invalidConfig "trust_anchor_uri is empty") ↔
      Text.Blank s.trustAnchor.toList) ∧
    (¬ Text.Blank s.trustAnchor.toList → s.config = s.build) ∧
    (∀ e, s.build = .error e ↔ ∃ before source after, s.sources = before ++ source :: after ∧
      (∀ t ∈ before, ∃ p, compilePattern t = .ok p) ∧
      (¬ ∃ p, compilePattern source = .ok p) ∧ e = .badPattern source) ∧
    (∀ c, s.build = .ok c ↔ c.Keeps s) ∧
    (∀ c, s.build = .ok c → ∀ uri description, c.ignoredBy uri = some description ↔
      ∃ before source after, s.ignored = before ++ (source, description) :: after ∧
        Matches source uri ∧ ∀ r ∈ before, ¬ Matches r.1 uri) := by
  have herror : ∀ e, s.build = .error e ↔ ∃ before source after,
      s.sources = before ++ source :: after ∧ (∀ t ∈ before, ∃ p, compilePattern t = .ok p) ∧
      (¬ ∃ p, compilePattern source = .ok p) ∧ e = .badPattern source := by
    intro e
    rw [build_eq_error_iff, StopsAt]
    simp only [compilePattern_eq_error_iff]
  refine ⟨?_, config_of_not_blank, herror, fun c => build_eq_ok_iff,
    fun c hc uri description => (build_eq_ok_iff.1 hc).ignoredBy_eq_some_iff⟩
  constructor
  · intro h
    by_contra hblank
    rw [config_of_not_blank hblank] at h
    cases hbuild : s.build with
    | ok c =>
      rw [hbuild] at h
      cases h
    | error e =>
      -- a source that is no pattern is another fault
      obtain ⟨before, source, after, -, -, -, rfl⟩ := (herror e).1 hbuild
      rw [hbuild] at h
      cases h
  · intro hblank
    rw [config_of_blank hblank]
    rfl

end RpkiOverlap
