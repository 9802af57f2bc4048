import Mathlib.Data.Option.Basic
import RpkiOverlap.Proofs.Config

/-! # Keys of a configuration document

A configuration document has keys in three places: at its top, in the tables of rules and in the
table of limits.  Each place has its own keys (`Place.keys`), and any other is a stray one, such as
a key with a slip of the pen in it.

* `Says` are the settings that a document says, key by key; `ofEntries?_eq_some_iff` shows that
  they are what is read.
* A stray key at the top or in a rule is refused (`Says.not_stray`).
* A stray key among the limits makes no difference (`ofEntries?_withoutStray`).  The limit that was
  meant has its default then (`Says.default_of_lookup`).

`Config.ofToml_keys` puts this together.
-/
namespace RpkiOverlap

open Toml (Item Entries)

namespace Settings

/-- The places of a document that have keys. -/
inductive Place where
  | top
  | rule
  | limits

/-- The keys of a place. -/
def Place.keys : Place → List String
  | .top => ["trust_anchor_uri", "tracked_sias", "keyroll_publication_point_grace_period",
      "ignored_overlaps", "limits"]
  | .rule => ["regex", "description"]
  | .limits => [Limits.perCertificateName, Limits.totalName]

/-- The entries of an item, if it is a table. -/
def entriesOf? : Item → Option Entries
  | .table _ entries => some entries
  | _ => none

/-- The tables in a list of tables, written with headers or in brackets. -/
def elementsOf : Item → List Entries
  | .tables elements => elements
  | .array items => items.filterMap entriesOf?
  | _ => []

/-- The tables of a document that stand in a place. -/
def Place.tables (entries : Entries) : Place → List Entries
  | .top => [entries]
  | .rule => (entries.lookup "ignored_overlaps").elim [] elementsOf
  | .limits => ((entries.lookup "limits").bind entriesOf?).toList

/-- A document has a key in a place that is none of its keys. -/
def Stray (entries : Entries) (place : Place) : Prop :=
  ∃ table ∈ place.tables entries, ∃ e ∈ table, e.1 ∉ place.keys

theorem hasOnly_iff {entries : Entries} {keys : List String} :
    hasOnly entries keys = true ↔ ∀ e ∈ entries, e.1 ∈ keys := by
  simp [hasOnly]

/-! ## What a document says -/

/-- The settings that the entries of a document say, key by key. -/
structure Says (entries : Entries) (s : Settings) : Prop where
  known : ∀ e ∈ entries, e.1 ∈ Place.top.keys
  trustAnchor : entry? entries "trust_anchor_uri" string? = some (some s.trustAnchor)
  tracked : ∃ uris, entry? entries "tracked_sias" strings? = some uris ∧ uris.getD [] = s.tracked
  grace : entry? entries "keyroll_publication_point_grace_period" period? = some s.grace
  ignored : ∃ rules, entry? entries "ignored_overlaps" rules? = some rules ∧
    rules.getD [] = s.ignored
  limits : ∃ limits, entry? entries "limits" limits? = some limits ∧ limits.getD {} = s.limits

/-- What is read are the settings that the document says. -/
theorem ofEntries?_eq_some_iff {entries : Entries} {s : Settings} :
    ofEntries? entries = some s ↔ Says entries s := by
  simp only [ofEntries?, Option.bind_eq_bind, Option.bind_eq_some_iff, Option.pure_def,
    Option.some.injEq, Option.guard_eq_some', hasOnly_iff]
  constructor
  · rintro ⟨-, hknown, anchor?, hanchor, tracked, htracked, grace, hgrace, ignored, hignored,
      limits, hlimits, anchor, rfl, rfl⟩
    exact ⟨hknown, hanchor, ⟨tracked, htracked, rfl⟩, hgrace, ⟨ignored, hignored, rfl⟩,
      ⟨limits, hlimits, rfl⟩⟩
  · rintro ⟨hknown, hanchor, ⟨tracked, htracked, ht⟩, hgrace, ⟨ignored, hignored, hi⟩,
      ⟨limits, hlimits, hl⟩⟩
    refine ⟨(), hknown, _, hanchor, _, htracked, _, hgrace, _, hignored, _, hlimits, _, rfl, ?_⟩
    rw [ht, hi, hl]

theorem entry?_eq_some_iff {α : Type} {entries : Entries} {key : String}
    {read : Item → Option α} {value : Option α} :
    entry? entries key read = some value ↔ (entries.lookup key).map read = value.map some := by
  unfold entry?
  cases entries.lookup key with
  | none => cases value <;> simp
  | some item => cases h : read item <;> cases value <;> simp [h]

/-! ## Stray keys that are refused -/

/-- The table of a rule that is read has the keys of rules only. -/
theorem mem_keys_of_ruleOfEntries? {table : Entries} {r : String × String}
    (h : ruleOfEntries? table = some r) : ∀ e ∈ table, e.1 ∈ Place.rule.keys := by
  simp only [ruleOfEntries?, Option.bind_eq_bind, Option.bind_eq_some_iff,
    Option.guard_eq_some'] at h
  obtain ⟨-, hknown, -⟩ := h
  exact hasOnly_iff.1 hknown

theorem mem_keys_of_rules? {item : Item} {rules : List (String × String)}
    (h : rules? item = some rules) :
    ∀ table ∈ elementsOf item, ∀ e ∈ table, e.1 ∈ Place.rule.keys := by
  intro table htable
  cases item with
  | array items =>
    obtain ⟨element, hmem, helement⟩ := List.mem_filterMap.1 htable
    obtain ⟨r, hr⟩ := exists_of_mapM_eq_some h element hmem
    cases element with
    | table kind entries =>
      obtain rfl := Option.some.inj helement
      exact mem_keys_of_ruleOfEntries? hr
    | _ => cases helement
  | tables elements =>
    obtain ⟨r, hr⟩ := exists_of_mapM_eq_some h table htable
    exact mem_keys_of_ruleOfEntries? hr
  | _ => cases htable

/-- A document that says settings has no stray keys, except among the limits. -/
theorem Says.not_stray {entries : Entries} {s : Settings} (h : Says entries s) {place : Place}
    (hplace : place ≠ .limits) : ¬ Stray entries place := by
  rintro ⟨table, htable, e, he, hstray⟩
  cases place with
  | top =>
    obtain rfl := List.mem_singleton.1 htable
    exact hstray (h.known e he)
  | rule =>
    obtain ⟨ignored, hignored, -⟩ := h.ignored
    rw [entry?_eq_some_iff] at hignored
    rw [Place.tables] at htable
    cases hlookup : entries.lookup "ignored_overlaps" with
    | none =>
      rw [hlookup] at htable
      cases htable
    | some item =>
      rw [hlookup] at hignored htable
      obtain ⟨rules, rfl, hrules⟩ := Option.map_eq_some_iff.1 hignored.symm
      exact hstray (mem_keys_of_rules? hrules.symm table htable e he)
  | limits => exact hplace rfl

/-! ## Stray keys among the limits -/

/-- The item without stray keys of limits, if it is a table. -/
def withoutStray : Item → Item
  | .table kind entries => .table kind (entries.filter fun e => Place.limits.keys.contains e.1)
  | item => item

/-- The entries of a document without stray keys among the limits. -/
def withoutStrayLimits (entries : Entries) : Entries :=
  entries.map fun e => (e.1, if e.1 = "limits" then withoutStray e.2 else e.2)

theorem lookup_withoutStrayLimits (entries : Entries) (key : String) :
    (withoutStrayLimits entries).lookup key =
      (entries.lookup key).map fun item => if key = "limits" then withoutStray item else item := by
  induction entries with
  | nil => rfl
  | cons e entries ih =>
    obtain ⟨name, item⟩ := e
    rw [withoutStrayLimits, List.map_cons, List.lookup_cons, List.lookup_cons]
    by_cases hname : key = name
    · simp [hname]
    · have hne : (key == name) = false := by simpa using hname
      rw [hne]
      exact ih

theorem lookup_filter_of_mem {entries : Entries} {keys : List String} {key : String}
    (h : key ∈ keys) :
    (entries.filter fun e => keys.contains e.1).lookup key = entries.lookup key := by
  induction entries with
  | nil => rfl
  | cons e entries ih =>
    obtain ⟨name, item⟩ := e
    by_cases hname : name ∈ keys
    · rw [List.filter_cons_of_pos (by simpa using hname), List.lookup_cons, List.lookup_cons, ih]
    · have hne : (key == name) = false := by
        rw [beq_eq_false_iff_ne]
        rintro rfl
        exact hname h
      rw [List.filter_cons_of_neg (by simpa using hname), List.lookup_cons, hne, ih]

/-- The limits of a table are read under their own keys. -/
theorem limits?_withoutStray (item : Item) : limits? (withoutStray item) = limits? item := by
  cases item with
  | table kind entries =>
    have hlookup : ∀ key ∈ Place.limits.keys,
        (entries.filter fun e => Place.limits.keys.contains e.1).lookup key = entries.lookup key :=
      fun key hkey => lookup_filter_of_mem hkey
    simp only [withoutStray, limits?, entry?]
    rw [hlookup _ (by simp [Place.keys]), hlookup _ (by simp [Place.keys])]
  | _ => rfl

/-- What a document says does not depend on stray keys among the limits. -/
theorem says_withoutStray_iff {entries : Entries} {s : Settings} :
    Says (withoutStrayLimits entries) s ↔ Says entries s := by
  have hother : ∀ {α : Type} (key : String) (read : Item → Option α), key ≠ "limits" →
      entry? (withoutStrayLimits entries) key read = entry? entries key read := by
    intro α key read hkey
    unfold entry?
    rw [lookup_withoutStrayLimits]
    simp [hkey]
  have hlimits : entry? (withoutStrayLimits entries) "limits" limits? =
      entry? entries "limits" limits? := by
    unfold entry?
    rw [lookup_withoutStrayLimits]
    cases entries.lookup "limits" with
    | none => rfl
    | some item => simp [limits?_withoutStray]
  have hknown : (∀ e ∈ withoutStrayLimits entries, e.1 ∈ Place.top.keys) ↔
      ∀ e ∈ entries, e.1 ∈ Place.top.keys := by
    rw [withoutStrayLimits, List.forall_mem_map]
  constructor
  · rintro ⟨h1, h2, h3, h4, h5, h6⟩
    rw [hother _ _ (by decide)] at h2 h3 h4 h5
    exact ⟨hknown.1 h1, h2, h3, h4, h5, hlimits ▸ h6⟩
  · rintro ⟨h1, h2, h3, h4, h5, h6⟩
    rw [← hother _ _ (by decide)] at h2 h3 h4 h5
    exact ⟨hknown.2 h1, h2, h3, h4, h5, hlimits.symm ▸ h6⟩

theorem ofEntries?_withoutStray (entries : Entries) :
    ofEntries? (withoutStrayLimits entries) = ofEntries? entries := by
  ext s
  rw [ofEntries?_eq_some_iff, ofEntries?_eq_some_iff, says_withoutStray_iff]

/-- A limit without a key of its own has its default. -/
theorem Says.default_of_lookup {entries table : Entries} {s : Settings} {kind : Toml.TableKind}
    (h : Says entries s) (htable : entries.lookup "limits" = some (.table kind table)) :
    (table.lookup Limits.perCertificateName = none → s.limits.perCertificate = 32) ∧
    (table.lookup Limits.totalName = none → s.limits.total = 65536) := by
  obtain ⟨limits, hlimits, hs⟩ := h.limits
  rw [entry?_eq_some_iff, htable] at hlimits
  obtain ⟨l, rfl, hl⟩ := Option.map_eq_some_iff.1 hlimits.symm
  obtain ⟨perCertificate, hp, hl⟩ := Option.bind_eq_some_iff.1 hl.symm
  obtain ⟨total, ht, hl⟩ := Option.bind_eq_some_iff.1 hl
  obtain rfl : Limits.ofOptions perCertificate total = l := Option.some.inj hl
  have hs : Limits.ofOptions perCertificate total = s.limits := hs
  rw [← hs]
  constructor
  · intro hnone
    unfold entry? at hp
    rw [hnone] at hp
    cases hp
    rfl
  · intro hnone
    unfold entry? at ht
    rw [hnone] at ht
    cases ht
    rfl

theorem keeps_of_config {s : Settings} {c : Config} (h : s.config = .ok c) : c.Keeps s := by
  by_cases hblank : Text.Blank s.trustAnchor.toList
  · rw [config_of_blank hblank] at h
    cases h
  · rw [config_of_not_blank hblank] at h
    exact build_eq_ok_iff.1 h

end Settings

/-! ## Documents -/

namespace Config

open Settings (Says Stray withoutStrayLimits)

/-- The document is refused as no configuration. -/
def IsRefused (text : String) : Prop :=
  ∃ reason, (ofToml text).mapError ConfigError.fault = .error (.invalidConfig reason)

theorem isRefused_of_malformed {text : String} (h : ofToml text = .error .malformed) :
    IsRefused text := ⟨_, by rw [h]; rfl⟩

theorem ofToml_of_read?_eq_none {text : String} (h : Toml.read? text.toList = none) :
    ofToml text = .error .malformed := by
  rw [ofToml, h]
  rfl

theorem ofToml_eq_config {text : String} {entries : Entries} {s : Settings}
    (h : Toml.read? text.toList = some entries) (hs : Says entries s) : ofToml text = s.config := by
  rw [ofToml, h, Option.bind_some, Settings.ofEntries?_eq_some_iff.2 hs]

theorem ofToml_eq_malformed {text : String} {entries : Entries}
    (h : Toml.read? text.toList = some entries) (hs : ¬ ∃ s, Says entries s) :
    ofToml text = .error .malformed := by
  have hnone : Settings.ofEntries? entries = none := by
    rw [Option.eq_none_iff_forall_ne_some]
    intro s hsome
    exact hs ⟨s, Settings.ofEntries?_eq_some_iff.1 hsome⟩
  rw [ofToml, h, Option.bind_some, hnone]

/-- **Stray keys of a document.**  A text that is no document is refused.  A document that says
settings gives the configuration of these settings, and any other is refused; in particular one with
a stray key at the top or in a rule.  Stray keys among the limits are not refused: documents that
differ in them alone give the same configuration or the same error, and a limit without a key of its
own has its default. -/
theorem ofToml_keys (text : String) :
    (Toml.read? text.toList = none → IsRefused text) ∧
    ∀ entries, Toml.read? text.toList = some entries →
      (∀ s, Says entries s → ofToml text = s.config) ∧
      ((¬ ∃ s, Says entries s) → IsRefused text) ∧
      (∀ place, place ≠ .limits → Stray entries place → IsRefused text) ∧
      (∀ text' entries', Toml.read? text'.toList = some entries' →
        withoutStrayLimits entries' = withoutStrayLimits entries → ofToml text' = ofToml text) ∧
      (∀ kind table c, entries.lookup "limits" = some (.table kind table) → ofToml text = .ok c →
        (table.lookup "max_pairs_per_certificate" = none → c.limits.perCertificate = 32) ∧
        (table.lookup "max_total_pairs" = none → c.limits.total = 65536)) := by
  refine ⟨fun hnone => isRefused_of_malformed (ofToml_of_read?_eq_none hnone), ?_⟩
  intro entries hread
  refine ⟨fun s => ofToml_eq_config hread,
    fun hnone => isRefused_of_malformed (ofToml_eq_malformed hread hnone), ?_, ?_, ?_⟩
  · intro place hplace hstray
    refine isRefused_of_malformed (ofToml_eq_malformed hread ?_)
    rintro ⟨s, hs⟩
    exact hs.not_stray hplace hstray
  · intro text' entries' hread' hsame
    rw [ofToml, ofToml, hread, hread', Option.bind_some, Option.bind_some,
      ← Settings.ofEntries?_withoutStray entries, ← hsame, Settings.ofEntries?_withoutStray]
  · intro kind table c htable hok
    by_cases hsays : ∃ s, Says entries s
    · obtain ⟨s, hs⟩ := hsays
      rw [ofToml_eq_config hread hs] at hok
      rw [(Settings.keeps_of_config hok).limits]
      exact hs.default_of_lookup htable
    · rw [ofToml_eq_malformed hread hsays] at hok
      cases hok

/-- A document in which the key of the limit on all overlaps lacks its last letter. -/
def misspeltLimit : String := "trust_anchor_uri = 'ta.cer'\n[limits]\nmax_total_pair = 1\n"

/-- The document is not refused, and the limit on all overlaps has its default. -/
theorem ofToml_misspeltLimit :
    (∃ entries, Toml.read? misspeltLimit.toList = some entries ∧ Stray entries .limits) ∧
    ofToml misspeltLimit = .ok (.new "ta.cer") ∧ (Config.new "ta.cer").limits.total = 65536 ∧
    ¬ IsRefused misspeltLimit := by
  have hread : Toml.read? misspeltLimit.toList =
      some [("trust_anchor_uri", .string "ta.cer"),
        ("limits", .table .header [("max_total_pair", .integer 1)])] := rfl
  have hsays : Says [("trust_anchor_uri", .string "ta.cer"),
      ("limits", .table .header [("max_total_pair", .integer 1)])]
      ⟨"ta.cer", [], [], none, {}⟩ :=
    ⟨by decide, rfl, ⟨_, rfl, rfl⟩, rfl, ⟨_, rfl, rfl⟩, ⟨_, rfl, rfl⟩⟩
  have hstray : Stray [("trust_anchor_uri", .string "ta.cer"),
      ("limits", .table .header [("max_total_pair", .integer 1)])] .limits :=
    ⟨[("max_total_pair", .integer 1)], List.mem_singleton_self _, _,
      List.mem_singleton_self _, by decide⟩
  have hblank : ¬ Text.Blank "ta.cer".toList := fun h => absurd (h 't' (by decide)) (by decide)
  have hok : ofToml misspeltLimit = .ok (.new "ta.cer") := by
    rw [ofToml_eq_config hread hsays, Settings.config_of_not_blank hblank]
    rfl
  refine ⟨⟨_, hread, hstray⟩, hok, rfl, ?_⟩
  rintro ⟨reason, hreason⟩
  rw [hok] at hreason
  cases hreason

end Config
end RpkiOverlap
