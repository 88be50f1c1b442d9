import PilotLamp.Proofs.SettingsLayers

/-!
# Keys that are no setting

A key at the top of a document that is none of the two tables is an error. Inside the tables other
keys are passed over: whatever they hold, the settings stay the same, so that a misspelt key leaves
its setting at the standard. Only a number that cannot be read is an error there.
-/

namespace PilotLamp

namespace Value

variable {document value : Value}

/-- No path leads into a number. -/
theorem IsBelow.eq_nil_of_at? {bound : Nat} (h : document.IsBelow bound) {path : List String}
    (hvalue : document.at? path = some value) : path = [] := by
  obtain ⟨n, rfl, _⟩ := h
  cases path with
  | nil => rfl
  | cons key rest => simp [at?, get?] at hvalue

end Value

namespace HostSettings

/-- Whether all keys of a document are settings, or tables on the way to settings. -/
def HoldsOnlySettings (document : Value) : Prop :=
  ∀ path value, document.at? path = some value → ∃ documented ∈ documentedKeys, path <+: documented

/-- The paths to other keys in one of the two tables, and to what stands under such a key. -/
def Stray (path : List String) : Prop :=
  ∃ table key, (table = "blink" ∨ table = "simulation") ∧ [table, key] ∉ documentedKeys
    ∧ [table, key] <+: path

/-- What becomes of keys that are no setting. -/
structure ScreensKeys (text : String) (document : Value) : Prop where
  /-- At the top such a key is an error. -/
  refused : ∀ key value, document.at? [key] = some value → key ≠ "blink" → key ≠ "simulation" →
    ∃ cause, ofToml text = .error cause
  /-- A document that is accepted has them nowhere but inside its tables. -/
  stray : ∀ settings, ofToml text = .ok settings → ∀ path value, document.at? path = some value →
    (∃ documented ∈ documentedKeys, path <+: documented) ∨ Stray path
  /-- There they make no difference: the settings are the same with anything else in the tables
  beside the documented keys, as long as the numbers in it can be read. -/
  passedOver : ∀ settings, ofToml text = .ok settings →
    ∀ other otherDocument, TomlText.read? other = some otherDocument →
      holdsTables otherDocument = true →
      (∀ key value, otherDocument.at? [key] = some value → key = "blink" ∨ key = "simulation") →
      ReadableBeside otherDocument →
      (∀ path ∈ documentedKeys, otherDocument.at? path = document.at? path) →
      ofToml other = .ok settings

variable {text : String} {document : Value} {settings : HostSettings}

/-- A documented key holds a number. -/
theorem Fits.isBelow (h : Fits document) {path : List String} (hpath : path ∈ documentedKeys)
    {value : Value} (hvalue : document.at? path = some value) : ∃ bound, value.IsBelow bound := by
  simp only [documentedKeys, List.mem_cons, List.not_mem_nil, or_false] at hpath
  rcases hpath with rfl | rfl | rfl
  · exact ⟨_, h.pin value hvalue⟩
  · exact ⟨_, h.periodMs value hvalue⟩
  · exact ⟨_, h.slots value hvalue⟩

/-- A document fits if it holds the same under the documented keys as one that does, and no other
key at its top. -/
theorem Fits.of_alike (h : Fits document) {other : Value}
    (htop : ∀ key value, other.at? [key] = some value → key = "blink" ∨ key = "simulation")
    (halike : ∀ path ∈ documentedKeys, other.at? path = document.at? path) : Fits other := by
  simp only [documentedKeys, List.forall_mem_cons] at halike
  obtain ⟨hpin, hperiod, hslots, _⟩ := halike
  exact ⟨htop, hpin ▸ h.pin, hperiod ▸ h.periodMs, hslots ▸ h.slots⟩

/-- A document that fits has other keys nowhere but inside its tables. -/
theorem Fits.documented_or_stray (h : Fits document) {path : List String} {value : Value}
    (hvalue : document.at? path = some value) :
    (∃ documented ∈ documentedKeys, path <+: documented) ∨ Stray path := by
  cases path with
  | nil => exact .inl ⟨["blink", "pin"], by simp [documentedKeys], List.nil_prefix⟩
  | cons table path =>
    cases path with
    | nil =>
      rcases h.top table value hvalue with rfl | rfl
      · exact .inl ⟨["blink", "pin"], by simp [documentedKeys], by simp⟩
      · exact .inl ⟨["simulation", "slots"], by simp [documentedKeys], by simp⟩
    | cons key rest =>
      by_cases hknown : [table, key] ∈ documentedKeys
      · have hpath : table :: key :: rest = [table, key] ++ rest := rfl
        rw [hpath, Value.at?_append, Option.bind_eq_some_iff] at hvalue
        obtain ⟨inner, hinner, hrest⟩ := hvalue
        obtain ⟨bound, hbelow⟩ := h.isBelow hknown hinner
        rw [hbelow.eq_nil_of_at? hrest]
        exact .inl ⟨[table, key], hknown, List.prefix_refl _⟩
      · exact .inr ⟨table, key, h.top_of_at? hvalue, hknown, List.prefix_append [table, key] rest⟩

/-- A key that is no setting is an error at the top of a document and has no say in its tables. -/
theorem keys_are_screened {text : String} {document : Value}
    (hread : TomlText.read? text = some document) (htables : holdsTables document = true) :
    ScreensKeys text document where
  refused key value hvalue hblink hsimulation := by
    refine (screens hread).refused fun hfits => ?_
    exact (hfits.top key value hvalue).elim hblink hsimulation
  stray settings haccepted path value hvalue := by
    have hfits := ((screens hread).accepted_iff htables).1 ⟨settings, haccepted⟩
    exact hfits.1.documented_or_stray hvalue
  passedOver settings haccepted other otherDocument hother hotherTables htop hbeside halike := by
    have hfits := (((screens hread).accepted_iff htables).1 ⟨settings, haccepted⟩).1
    obtain ⟨others, hothers⟩ :=
      ((screens hother).accepted_iff hotherTables).2 ⟨hfits.of_alike htop halike, hbeside⟩
    have hlayers := comeInLayers_of_ofToml hread htables haccepted
    have hotherLayers := comeInLayers_of_ofToml hother hotherTables hothers
    rw [hothers, hlayers.unique hotherLayers halike]

/-- A document that puts a note beside its pin. -/
theorem note_beside_pin_is_passed_over :
    ∃ document, TomlText.read? "[blink]\npin = 3\nnote = [\"desk\"]\n" = some document
      ∧ holdsTables document = true
      ∧ ScreensKeys "[blink]\npin = 3\nnote = [\"desk\"]\n" document
      ∧ (ofToml "[blink]\npin = 3\nnote = [\"desk\"]\n").toOption
        = some ⟨⟨.ofNat 3, 500⟩, ⟨64⟩⟩ := by
  have hread : (TomlText.read? "[blink]\npin = 3\nnote = [\"desk\"]\n").any holdsTables = true := by
    decide +kernel
  obtain ⟨document, hdocument, htables⟩ := (Option.any_eq_true _ _).1 hread
  exact ⟨document, hdocument, htables, keys_are_screened hdocument htables, by decide +kernel⟩

/-- So documents that are accepted need not hold settings only: a misspelt period is passed over. -/
theorem misspelt_period_is_accepted :
    ¬ ∀ text document settings, TomlText.read? text = some document →
      holdsTables document = true → ofToml text = .ok settings → HoldsOnlySettings document := by
  intro h
  have hread : (TomlText.read? "[blink]\nperiod = 100\n").any (fun document =>
      holdsTables document && (document.at? ["blink", "period"]).isSome) = true := by decide +kernel
  have haccepted : (ofToml "[blink]\nperiod = 100\n").toOption = some .standard := by decide +kernel
  obtain ⟨document, hdocument, hholds⟩ := (Option.any_eq_true _ _).1 hread
  obtain ⟨htables, hperiod⟩ := Bool.and_eq_true_iff.1 hholds
  obtain ⟨value, hvalue⟩ := Option.isSome_iff_exists.1 hperiod
  cases hsettings : ofToml "[blink]\nperiod = 100\n" with
  | error cause => simp [hsettings, Except.toOption] at haccepted
  | ok settings =>
    obtain ⟨documented, hknown, hprefix⟩ :=
      h _ document settings hdocument htables hsettings _ value hvalue
    have hnone : ∀ documented ∈ documentedKeys, ¬ ["blink", "period"] <+: documented := by
      decide +kernel
    exact hnone documented hknown hprefix

end HostSettings

end PilotLamp
