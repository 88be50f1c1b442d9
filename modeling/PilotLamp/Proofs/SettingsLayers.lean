import PilotLamp.HostProgram
import PilotLamp.Proofs.SettingsTables

/-!
# Settings in layers

Every setting of the host program comes from the command line, else from the file that the command
line names, else from the standard, and no setting has a say in another. A file is accepted or not
whatever the command line says. What arrays in place of tables do is out of scope.
-/

namespace PilotLamp

namespace HostSettings

/-- The settings that a file is meant to hold, as paths in its document. -/
def documentedKeys : List (List String) :=
  [["blink", "pin"], ["blink", "period_ms"], ["simulation", "slots"]]

/-- What has to hold of a document for its settings to be read. -/
structure Fits (document : Value) : Prop where
  /-- Its top holds nothing but two tables. -/
  top : ∀ key value, document.at? [key] = some value → key = "blink" ∨ key = "simulation"
  /-- A pin has eight bits. -/
  pin : ∀ value, document.at? ["blink", "pin"] = some value → value.IsBelow UInt8.size
  /-- A period has 32. -/
  periodMs : ∀ value, document.at? ["blink", "period_ms"] = some value → value.IsBelow UInt32.size
  /-- A number of slots has eight. -/
  slots : ∀ value, document.at? ["simulation", "slots"] = some value → value.IsBelow UInt8.size

/-- Whether numbers can be read in all that stands in the tables beside the settings. -/
def ReadableBeside (document : Value) : Prop :=
  ∀ table key value, document.at? [table, key] = some value →
    [table, key] ∉ documentedKeys → value.isReadable = true

/-- Whether what stands where the two tables belong is a table. -/
def holdsTables (document : Value) : Bool :=
  ["blink", "simulation"].all fun key => (document.get? key).all Value.isTable

end HostSettings

/-! ## Documents that are accepted -/

namespace HostSettings

variable {document : Value} {settings : HostSettings}

theorem isTable_of_holdsTables (h : holdsTables document = true) {key : String}
    (hkey : key = "blink" ∨ key = "simulation") {inner : Value}
    (hinner : document.get? key = some inner) : inner.isTable = true := by
  have hall := List.all_eq_true.1 h key (by simpa using hkey)
  rwa [hinner] at hall

/-- What the settings take under a key of one of the two tables. -/
def TakesInside (table key : String) (value : Value) : Prop :=
  (table = "blink" ∧ BlinkPlan.Takes key value)
  ∨ (table = "simulation" ∧ SimulationSettings.Takes key value)

/-- Whatever stands in a table of a document whose settings are read is taken there. -/
theorem takesInside_of_ofValue (hkeys : document.WellKeyed) (h : ofValue document = .ok settings)
    {table key : String} {value : Value} (hvalue : document.at? [table, key] = some value) :
    TakesInside table key value := by
  rw [Value.at?_pair, Option.bind_eq_some_iff] at hvalue
  obtain ⟨inner, hinner, hvalue⟩ := hvalue
  have hinnerKeys := hkeys.get? hinner
  rcases takesExactly.takes hkeys h hinner with ⟨htable, blink, hblink⟩ | ⟨htable, _, hsimulation⟩
  · exact .inl ⟨htable, BlinkPlan.takesExactly.takes hinnerKeys hblink hvalue⟩
  · exact .inr ⟨htable, SimulationSettings.takesExactly.takes hinnerKeys hsimulation hvalue⟩

/-- A document whose settings are read fits. -/
theorem fits_of_ofValue (hkeys : document.WellKeyed) (h : ofValue document = .ok settings) :
    Fits document where
  top key value hvalue := by
    rw [Value.at?_singleton] at hvalue
    exact (takesExactly.takes hkeys h hvalue).imp And.left And.left
  pin value hvalue := by
    simpa [TakesInside, BlinkPlan.Takes] using takesInside_of_ofValue hkeys h hvalue
  periodMs value hvalue := by
    simpa [TakesInside, BlinkPlan.Takes] using takesInside_of_ofValue hkeys h hvalue
  slots value hvalue := by
    simpa [TakesInside, SimulationSettings.Takes] using takesInside_of_ofValue hkeys h hvalue

/-- Numbers can be read in all that stands in it beside the settings. -/
theorem readableBeside_of_ofValue (hkeys : document.WellKeyed)
    (h : ofValue document = .ok settings) : ReadableBeside document := by
  intro table key value hvalue hother
  rcases takesInside_of_ofValue hkeys h hvalue with ⟨rfl, htakes⟩ | ⟨rfl, htakes⟩
  · have hkey : key ≠ "pin" ∧ key ≠ "period_ms" := by simpa [documentedKeys] using hother
    simpa [BlinkPlan.Takes, hkey] using htakes
  · have hkey : key ≠ "slots" := by simpa [documentedKeys] using hother
    simpa [SimulationSettings.Takes, hkey] using htakes

/-- Every path into a document that fits starts at one of the two tables. -/
theorem Fits.top_of_at? (h : Fits document) {key : String} {path : List String} {value : Value}
    (hvalue : document.at? (key :: path) = some value) : key = "blink" ∨ key = "simulation" := by
  rw [Value.at?_cons, Option.bind_eq_some_iff] at hvalue
  obtain ⟨inner, hinner, _⟩ := hvalue
  exact h.top key inner ((Value.at?_singleton document key).trans hinner)

/-- Whatever stands in a table of a document that fits is taken there, if numbers can be read. -/
theorem Fits.takesInside (h : Fits document) (hbeside : ReadableBeside document)
    {table key : String} {value : Value} (hvalue : document.at? [table, key] = some value) :
    TakesInside table key value := by
  rcases h.top_of_at? hvalue with rfl | rfl
  · refine .inl ⟨rfl, ?_⟩
    rw [BlinkPlan.Takes]
    split_ifs with hpin hperiod
    · exact h.pin value (hpin ▸ hvalue)
    · exact h.periodMs value (hperiod ▸ hvalue)
    · exact hbeside _ _ _ hvalue (by simp [documentedKeys, hpin, hperiod])
  · refine .inr ⟨rfl, ?_⟩
    rw [SimulationSettings.Takes]
    split_ifs with hslots
    · exact h.slots value (hslots ▸ hvalue)
    · exact hbeside _ _ _ hvalue (by simp [documentedKeys, hslots])

/-- The settings of a document with two tables are read if and only if it fits and numbers can be
read beside them. -/
theorem ofValue_isOk_iff (hdocument : document.isTable = true) (hkeys : document.WellKeyed)
    (htables : holdsTables document = true) :
    (∃ settings, ofValue document = .ok settings) ↔ Fits document ∧ ReadableBeside document := by
  constructor
  · rintro ⟨settings, h⟩
    exact ⟨fits_of_ofValue hkeys h, readableBeside_of_ofValue hkeys h⟩
  · rintro ⟨hfits, hbeside⟩
    refine (takesExactly.decode_isOk_iff hdocument hkeys false standard).2 ?_
    intro table inner hinner
    have hinside : ∀ key value, inner.get? key = some value → TakesInside table key value :=
      fun key value hvalue => hfits.takesInside hbeside (by simp [Value.at?_pair, hinner, hvalue])
    have htop := hfits.top table inner ((Value.at?_singleton document table).trans hinner)
    have htable := isTable_of_holdsTables htables htop hinner
    rcases htop with rfl | rfl
    · refine .inl ⟨rfl, ?_⟩
      refine (BlinkPlan.takesExactly.decode_isOk_iff htable (hkeys.get? hinner) _ _).2 ?_
      exact fun key value hvalue => by simpa [TakesInside] using hinside key value hvalue
    · refine .inr ⟨rfl, ?_⟩
      refine (SimulationSettings.takesExactly.decode_isOk_iff htable (hkeys.get? hinner) _ _).2 ?_
      exact fun key value hvalue => by simpa [TakesInside] using hinside key value hvalue

/-! ## Where each setting comes from -/

/-- Every setting is what is given for it, else what stands under its own key, else the standard. -/
structure ComeInLayers (pin : Option Pin) (periodMs : Option UInt32)
    (key? : List String → Option Value) (settings : HostSettings) : Prop where
  /-- The pin; that of the simulated board is the standard. -/
  pin : Layered (fun value pin => value = .integer pin.index) pin (key? ["blink", "pin"])
    (BlinkPlan.forBoard .simulation).pin settings.blink.pin
  /-- The period, whose standard is that of the simulated board too. -/
  periodMs : Layered (fun value periodMs => value = .integer periodMs.toNat) periodMs
    (key? ["blink", "period_ms"]) (BlinkPlan.forBoard .simulation).periodMs settings.blink.periodMs
  /-- The number of slots, which nothing but a file gives. -/
  slots : Layered (fun value slots => value = .integer slots.toNat) none
    (key? ["simulation", "slots"]) 64 settings.simulation.slots

theorem comeInLayers_standard : ComeInLayers none none (fun _ => none) standard :=
  ⟨.standard, .standard, .standard⟩

/-- Nothing else has a say in the settings. -/
theorem ComeInLayers.unique {pin : Option Pin} {periodMs : Option UInt32}
    {key? otherKey? : List String → Option Value} {others : HostSettings}
    (h : ComeInLayers pin periodMs key? settings)
    (hothers : ComeInLayers pin periodMs otherKey? others)
    (halike : ∀ path ∈ documentedKeys, otherKey? path = key? path) : settings = others := by
  have hpin := hothers.pin
  have hperiod := hothers.periodMs
  have hslots := hothers.slots
  rw [halike _ (by simp [documentedKeys])] at hpin hperiod hslots
  have hsamePin : settings.blink.pin = others.blink.pin :=
    h.pin.unique (fun _ _ => Pin.ext_index) hpin
  have hsamePeriod : settings.blink.periodMs = others.blink.periodMs :=
    h.periodMs.unique (fun _ _ => UInt32.toNat_inj.1) hperiod
  have hsameSlots : settings.simulation.slots = others.simulation.slots :=
    h.slots.unique (fun _ _ => UInt8.toNat_inj.1) hslots
  obtain ⟨⟨_, _⟩, ⟨_⟩⟩ := settings
  obtain ⟨⟨_, _⟩, ⟨_⟩⟩ := others
  simp only at hsamePin hsamePeriod hsameSlots
  rw [hsamePin, hsamePeriod, hsameSlots]

/-- The settings of a document with two tables come from its keys and the standard. -/
theorem comeInLayers_of_ofValue (hdocument : document.isTable = true) (hkeys : document.WellKeyed)
    (htables : holdsTables document = true) (h : ofValue document = .ok settings) :
    ComeInLayers none none document.at? settings := by
  have hblink := setsPart_blink.layered hdocument hkeys h
  have hsimulation := setsPart_simulation.layered hdocument hkeys h
  have htable : ∀ key inner, key = "blink" ∨ key = "simulation" →
      document.get? key = some inner → inner.isTable = true :=
    fun _ _ hkey hinner => isTable_of_holdsTables htables hkey hinner
  have hblinkTable := fun inner => htable "blink" inner (.inl rfl)
  have hsimulationTable := fun inner => htable "simulation" inner (.inr rfl)
  exact ⟨BlinkPlan.setsPart_pin.layered_inside hkeys hblinkTable hblink,
    BlinkPlan.setsPart_periodMs.layered_inside hkeys hblinkTable hblink,
    SimulationSettings.setsPart_slots.layered_inside hkeys hsimulationTable hsimulation⟩

/-- The text of a document has the settings of the document. -/
theorem ofToml_eq_ok_iff {text : String} (h : TomlText.read? text = some document) :
    ofToml text = .ok settings ↔ ofValue document = .ok settings := by
  simp only [ofToml, h]
  cases ofValue document <;> simp [Except.mapError]

/-- The settings of a text come from the keys of its document and the standard. -/
theorem comeInLayers_of_ofToml {text : String} (hread : TomlText.read? text = some document)
    (htables : holdsTables document = true) (h : ofToml text = .ok settings) :
    ComeInLayers none none document.at? settings := by
  obtain ⟨hdocument, hkeys⟩ := TomlText.read?_wellKeyed hread
  exact comeInLayers_of_ofValue hdocument hkeys htables ((ofToml_eq_ok_iff hread).1 h)

/-- What becomes of the text of a document. -/
structure Screens (text : String) (document : Value) : Prop where
  /-- A document with an unknown key at its top, or with anything but an integer of the right range
  under a known key, is refused. -/
  refused : ¬ Fits document → ∃ cause, ofToml text = .error cause
  /-- A document with two tables is accepted if that is all right and numbers can be read. -/
  accepted_iff : holdsTables document = true →
    ((∃ settings, ofToml text = .ok settings) ↔ Fits document ∧ ReadableBeside document)

theorem screens {text : String} (h : TomlText.read? text = some document) :
    Screens text document where
  refused hfits := by
    cases hsettings : ofToml text with
    | error cause => exact ⟨cause, rfl⟩
    | ok settings =>
      have hvalue := (ofToml_eq_ok_iff h).1 hsettings
      exact absurd (fits_of_ofValue (TomlText.read?_wellKeyed h).2 hvalue) hfits
  accepted_iff htables := by
    obtain ⟨hdocument, hkeys⟩ := TomlText.read?_wellKeyed h
    simp only [ofToml_eq_ok_iff h]
    exact ofValue_isOk_iff hdocument hkeys htables

end HostSettings

/-! ## Command lines -/

namespace Invocation

variable (load : String → Except ReadFailure String) (invocation : Invocation)

/-- The file that is named, if one is, holds a document that has tables where they belong. -/
def NamesDocument : Prop :=
  ∀ path, invocation.config = some path → ∃ text document, load path = .ok text
    ∧ TomlText.read? text = some document ∧ HostSettings.holdsTables document = true

/-- The document in the file that is named. -/
def document? : Option Value := do
  let path ← invocation.config
  let text ← (load path).toOption
  TomlText.read? text

/-- How a command line and the file that it names make settings. -/
structure ResolvesInLayers : Prop where
  /-- There are settings if no file is named or if the one that is named is accepted. -/
  resolves_iff : (∃ settings, invocation.resolve load = .ok settings) ↔
    invocation.config = none ∨ ∃ path text accepted, invocation.config = some path
      ∧ load path = .ok text ∧ HostSettings.ofToml text = .ok accepted
  /-- Each of them comes from the command line, else from the file, else from the standard. -/
  layered : ∀ settings, invocation.resolve load = .ok settings →
    settings.ComeInLayers invocation.pin invocation.periodMs
      fun path => (invocation.document? load).bind fun document => document.at? path
  /-- A file that is refused is refused whatever the command line gives. -/
  unrescued : ∀ path text cause, invocation.config = some path → load path = .ok text →
    HostSettings.ofToml text = .error cause → ∀ flags : Invocation, flags.config = some path →
      flags.resolve load = .error (.invalid path cause)

variable {load invocation}

/-- What the command line gives lies over what was there. -/
theorem comeInLayers_override {key? : List String → Option Value} {settings : HostSettings}
    (h : settings.ComeInLayers none none key?) :
    (invocation.override settings).ComeInLayers invocation.pin invocation.periodMs key? :=
  ⟨h.pin.over invocation.pin, h.periodMs.over invocation.periodMs, h.slots⟩

theorem resolve_of_accepted {path text : String} {settings : HostSettings}
    (hpath : invocation.config = some path) (htext : load path = .ok text)
    (haccepted : HostSettings.ofToml text = .ok settings) :
    invocation.resolve load = .ok (invocation.override settings) := by
  simp only [resolve, hpath, htext, haccepted]

theorem resolve_of_refused {path text : String} {cause : SettingsError}
    (hpath : invocation.config = some path) (htext : load path = .ok text)
    (hrefused : HostSettings.ofToml text = .error cause) :
    invocation.resolve load = .error (.invalid path cause) := by
  simp only [resolve, hpath, htext, hrefused]

/-- Settings come about unless a file is refused. -/
theorem NamesDocument.resolve_isOk_iff (hfile : invocation.NamesDocument load) :
    (∃ settings, invocation.resolve load = .ok settings) ↔
      invocation.config = none ∨ ∃ path text accepted, invocation.config = some path
        ∧ load path = .ok text ∧ HostSettings.ofToml text = .ok accepted := by
  constructor
  · rintro ⟨settings, h⟩
    cases hconfig : invocation.config with
    | none => exact .inl rfl
    | some path =>
      obtain ⟨text, document, htext, _⟩ := hfile path hconfig
      cases haccepted : HostSettings.ofToml text with
      | error cause => simp [resolve_of_refused hconfig htext haccepted] at h
      | ok accepted => exact .inr ⟨path, text, accepted, rfl, htext, haccepted⟩
  · rintro (hconfig | ⟨path, text, accepted, hconfig, htext, haccepted⟩)
    · exact ⟨invocation.override .standard, by simp only [resolve, hconfig]⟩
    · exact ⟨_, resolve_of_accepted hconfig htext haccepted⟩

/-- Whatever settings come about, they come in layers. -/
theorem NamesDocument.comeInLayers (hfile : invocation.NamesDocument load) {settings : HostSettings}
    (h : invocation.resolve load = .ok settings) :
    settings.ComeInLayers invocation.pin invocation.periodMs
      fun path => (invocation.document? load).bind fun document => document.at? path := by
  cases hconfig : invocation.config with
  | none =>
    have hsettings : invocation.override .standard = settings := by
      simpa [resolve, hconfig] using h
    have hdocument : invocation.document? load = none := by simp [document?, hconfig]
    rw [← hsettings, hdocument]
    exact comeInLayers_override HostSettings.comeInLayers_standard
  | some path =>
    obtain ⟨text, document, htext, hread, htables⟩ := hfile path hconfig
    have hdocument : invocation.document? load = some document := by
      simp [document?, hconfig, htext, Except.toOption, hread]
    cases haccepted : HostSettings.ofToml text with
    | error cause => simp [resolve_of_refused hconfig htext haccepted] at h
    | ok accepted =>
      have hsettings : invocation.override accepted = settings := by
        simpa [resolve_of_accepted hconfig htext haccepted] using h
      rw [← hsettings, hdocument]
      exact comeInLayers_override (HostSettings.comeInLayers_of_ofToml hread htables haccepted)

/-- Settings come in layers for every command line whose file, if it names one, is a document with
tables where they belong, and every document is screened alike. -/
theorem resolves_in_layers (load : String → Except ReadFailure String) (invocation : Invocation)
    (hfile : invocation.NamesDocument load) :
    invocation.ResolvesInLayers load ∧ ∀ text document, TomlText.read? text = some document →
      HostSettings.Screens text document where
  left :=
    { resolves_iff := hfile.resolve_isOk_iff
      layered := fun _ => hfile.comeInLayers
      unrescued := fun _ _ _ _ htext hcause _ hflags => resolve_of_refused hflags htext hcause }
  right _ _ := HostSettings.screens

/-- A pin on the command line goes before that of a file, whose period stays. -/
theorem pin7_goes_before_file :
    let load : String → Except ReadFailure String := fun _ =>
      .ok "[blink]\npin = 3\nperiod_ms = 250\n"
    let invocation : Invocation := { pin := some (.ofNat 7), config := some "lumen.toml" }
    invocation.NamesDocument load ∧ invocation.ResolvesInLayers load
      ∧ (invocation.resolve load).toOption = some ⟨⟨.ofNat 7, 250⟩, ⟨64⟩⟩ := by
  intro load invocation
  have hfile : invocation.NamesDocument load := by
    intro path _
    have hread : (TomlText.read? "[blink]\npin = 3\nperiod_ms = 250\n").any
        HostSettings.holdsTables = true := by decide +kernel
    obtain ⟨document, hdocument, htables⟩ := (Option.any_eq_true _ _).1 hread
    exact ⟨_, document, rfl, hdocument, htables⟩
  exact ⟨hfile, (resolves_in_layers load invocation hfile).1, by decide +kernel⟩

end Invocation

end PilotLamp
