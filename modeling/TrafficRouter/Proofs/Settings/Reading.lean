import Mathlib.Logic.Relation
import TrafficRouter.Proofs.Settings.Parts
import TrafficRouter.Proofs.Toml.Keys

/-!
# What is read from a document

A document says something about a setting by its key in the table of its section, or by its place
where the section is an array. Settings are read setting by setting: each depends on what the
document says about it alone, and everything else in the document may be any other way.

* `Entries.given`, `Settings.ofTable_eq_some_iff`: the settings that a document gives are, one by
  one, what it says, and what they are where it says nothing;
* `Amended`, `Edit`, `SameContent`: keys that no setting has added and removed, and entries reordered,
  wherever they are; `SameContent.ofTable_eq`: none of it matters;
* `Entries.without`, `get_of_without`: with a key removed only its setting is another one.

NOT here: what lies over a document (`Overrides`, `Layers`), and which values make sense (`Rules`).
-/

namespace TrafficRouter

open Toml (Value Entries Origin)

variable {s s' : Settings} {t t' : Entries} {v : Value}

/-! ## 1. Sections -/

/-- What a setting is, by what its section has for it. -/
def Setting.read (k : Setting) : Option Value → Option Datum
  | none => some k.unset
  | some v => k.kind.ofValue v

namespace Setting

theorem read_text (k : Setting) {unset : String} (hkind : k.kind = .text)
    (hunset : k.unset = .text unset) (o : Option Value) :
    k.read o = (textField unset o).map .text := by
  cases o with
  | none => simp [textField, read, hunset]
  | some v => cases v <;> simp [textField, read, hkind, Kind.ofValue]

theorem read_number (k : Setting) {max unset : Nat} (hkind : k.kind = .number max)
    (hunset : k.unset = .number unset) (o : Option Value) :
    k.read o = (numberField max unset o).map .number := by
  cases o with
  | none => simp [numberField, read, hunset]
  | some v =>
    cases v with
    | integer n =>
      simp only [numberField, read, hkind, Kind.ofValue]
      split <;> rfl
    | _ => simp [numberField, read, hkind, Kind.ofValue]

theorem read_flag (k : Setting) {unset : Bool} (hkind : k.kind = .flag)
    (hunset : k.unset = .flag unset) (o : Option Value) :
    k.read o = (flagField unset o).map .flag := by
  cases o with
  | none => simp [flagField, read, hunset]
  | some v => cases v <;> simp [flagField, read, hkind, Kind.ofValue]

end Setting

/-- Settings are, in a section, what its value says. -/
def Settings.Fits (s : Settings) (sec : Section) (v : Value) : Prop :=
  ∀ k ∈ sec.settings, k.read (sectionField v k.key k.place) = some (s.get k)

theorem ListenerSettings.ofSection_eq_some_iff :
    ListenerSettings.ofSection v = some s.listener ↔ s.Fits .listener v := by
  obtain ⟨⟨_, _⟩, _, _, _, _, _⟩ := s
  simp [ListenerSettings.ofSection, Option.bind_eq_some_iff, Settings.Fits, Section.settings,
    Setting.read_text .bindAddress rfl rfl, Setting.read_number .maxConnections rfl rfl,
    Settings.get, Setting.key, Setting.place]

theorem BackendSettings.ofSection_eq_some_iff :
    BackendSettings.ofSection v = some s.backends ↔ s.Fits .backends v := by
  obtain ⟨_, ⟨_, _, _⟩, _, _, _, _⟩ := s
  simp [BackendSettings.ofSection, Option.bind_eq_some_iff, Settings.Fits, Section.settings,
    Setting.read_text (.service .login) rfl rfl, Setting.read_text (.service .game) rfl rfl,
    Setting.read_text (.service .httpLogin) rfl rfl, Settings.get, BackendSettings.address,
    Setting.key, Setting.place]

theorem ClassifierSettings.ofSection_eq_some_iff :
    ClassifierSettings.ofSection v = some s.classifier ↔ s.Fits .classifier v := by
  obtain ⟨_, _, ⟨_⟩, _, _, _⟩ := s
  simp [ClassifierSettings.ofSection, Option.bind_eq_some_iff, Settings.Fits, Section.settings,
    Setting.read_number .loginLengthThreshold rfl rfl, Settings.get, Setting.key, Setting.place]

theorem TimeoutSettings.ofSection_eq_some_iff :
    TimeoutSettings.ofSection v = some s.timeouts ↔ s.Fits .timeouts v := by
  obtain ⟨_, _, _, ⟨_, _, _, _, _, _⟩, _, _⟩ := s
  simp [TimeoutSettings.ofSection, Option.bind_eq_some_iff, Settings.Fits, Section.settings,
    Setting.read_number .initialRead rfl rfl, Setting.read_number .connect rfl rfl,
    Setting.read_number .clientRead rfl rfl, Setting.read_number .backendRead rfl rfl,
    Setting.read_number .responseIdle rfl rfl, Setting.read_number .shutdownDrain rfl rfl,
    Settings.get, Setting.key, Setting.place]

theorem BufferSettings.ofSection_eq_some_iff :
    BufferSettings.ofSection v = some s.buffers ↔ s.Fits .buffers v := by
  obtain ⟨_, _, _, _, ⟨_, _, _⟩, _⟩ := s
  simp [BufferSettings.ofSection, Option.bind_eq_some_iff, Settings.Fits, Section.settings,
    Setting.read_number .sniff rfl rfl, Setting.read_number .relayChunk rfl rfl,
    Setting.read_number .maxHttpMessage rfl rfl, Settings.get, Setting.key, Setting.place]

theorem ObservabilitySettings.ofSection_eq_some_iff :
    ObservabilitySettings.ofSection v = some s.observability ↔ s.Fits .observability v := by
  obtain ⟨_, _, _, _, _, ⟨_, _, _⟩⟩ := s
  simp [-Bool.exists_bool, ObservabilitySettings.ofSection, Option.bind_eq_some_iff, Settings.Fits,
    Section.settings, Setting.read_text .logLevel rfl rfl, Setting.read_flag .metricsEnabled rfl rfl,
    Setting.read_text .metricsAddress rfl rfl, Settings.get, Setting.key, Setting.place]

/-! ## 2. Documents -/

/-- A section that says nothing. -/
def emptySection : Value := .table .header []

/-- What a document has for a section can stand for one. -/
def Toml.Entries.Sectioned (t : Entries) (sec : Section) : Prop :=
  ∀ v, t.get? sec.key = some v → isSection v = true

/-- What a document says about a setting, by its key or by its place. -/
def Toml.Entries.given (t : Entries) (k : Setting) : Option Value :=
  (t.get? k.parent.key).bind fun v => sectionField v k.key k.place

theorem given_eq (t : Entries) (k : Setting) :
    t.given k = sectionField ((t.get? k.parent.key).getD emptySection) k.key k.place := by
  unfold Toml.Entries.given
  cases t.get? k.parent.key <;> rfl

theorem given_of_get? {k : Setting} (h : t.get? k.parent.key = some v) :
    t.given k = sectionField v k.key k.place := by
  unfold Toml.Entries.given
  rw [h]
  rfl

theorem sectionOr_eq_some_iff (s : Settings) (t : Entries) (sec : Section) {α : Type} {unset a : α}
    {read : Value → Option α} (hread : ∀ {v}, read v = some a ↔ s.Fits sec v)
    (hunset : read emptySection = some unset) :
    sectionOr unset read (t.get? sec.key) = some a ↔
      t.Sectioned sec ∧ ∀ k ∈ sec.settings, k.read (t.given k) = some (s.get k) := by
  have hfits : read ((t.get? sec.key).getD emptySection) = some a ↔
      ∀ k ∈ sec.settings, k.read (t.given k) = some (s.get k) := by
    rw [hread]
    refine forall₂_congr fun k hk => ?_
    rw [given_eq, sec.parent_of_mem_settings k hk]
  rw [← hfits]
  unfold Toml.Entries.Sectioned
  cases t.get? sec.key with
  | none => simp [sectionOr, hunset]
  | some v => simp [sectionOr]

/-- **What a document says about a setting**: the value of its key in the table of its section, or
the element at its place where the section is an array. -/
inductive Toml.Entries.Says (t : Entries) (k : Setting) : Value → Prop where
  | byKey {origin : Origin} {inner : Entries} {v : Value}
      (hget : t.get? k.parent.key = some (.table origin inner)) (h : inner.get? k.key = some v) :
      t.Says k v
  | byPlace {elements : List Value} {v : Value}
      (hget : t.get? k.parent.key = some (.array elements)) (h : elements[k.place]? = some v) :
      t.Says k v

/-- **What a setting is under no flag**: what the document says about it, or what it is where nothing
is said. -/
inductive Toml.Entries.Below (t : Entries) (k : Setting) : Datum → Prop where
  | said {v : Value} {d : Datum} (h : t.Says k v) (hd : k.kind.ofValue v = some d) : t.Below k d
  | unset (h : ∀ v, ¬ t.Says k v) : t.Below k k.unset

theorem given_eq_some_iff {k : Setting} : t.given k = some v ↔ t.Says k v := by
  constructor
  · intro h
    obtain ⟨value, hget, hfield⟩ := Option.bind_eq_some_iff.mp h
    unfold sectionField at hfield
    split at hfield
    · exact .byKey hget hfield
    · exact .byPlace hget hfield
    · cases hfield
  · intro h
    cases h with
    | byKey hget h => exact (given_of_get? hget).trans h
    | byPlace hget h => exact (given_of_get? hget).trans h

theorem read_given_eq_some_iff {k : Setting} {d : Datum} :
    k.read (t.given k) = some d ↔ t.Below k d := by
  constructor
  · intro h
    cases hgiven : t.given k with
    | none =>
      rw [hgiven] at h
      obtain rfl := Option.some.inj h
      exact .unset fun v hv => Option.some_ne_none v ((given_eq_some_iff.mpr hv).symm.trans hgiven)
    | some v =>
      rw [hgiven] at h
      exact .said (given_eq_some_iff.mp hgiven) h
  · intro h
    cases h with
    | said hv hd =>
      rw [given_eq_some_iff.mpr hv]
      exact hd
    | unset hnone =>
      rw [Option.eq_none_iff_forall_ne_some.mpr fun v hv => hnone v (given_eq_some_iff.mp hv)]
      rfl

/-- **Settings are read one by one.** A document gives settings exactly if what it has for each
section can be one, and the settings are what it says about each of them, or what they are where it
says nothing. -/
theorem Settings.ofTable_eq_some_iff :
    Settings.ofTable t = some s ↔
      (∀ sec, t.Sectioned sec) ∧ ∀ k : Setting, k.read (t.given k) = some (s.get k) := by
  have hsections : Settings.ofTable t = some s ↔ ∀ sec : Section,
      t.Sectioned sec ∧ ∀ k ∈ sec.settings, k.read (t.given k) = some (s.get k) := by
    have hlistener := sectionOr_eq_some_iff s t .listener ListenerSettings.ofSection_eq_some_iff rfl
    have hbackends := sectionOr_eq_some_iff s t .backends BackendSettings.ofSection_eq_some_iff rfl
    have hclassifier :=
      sectionOr_eq_some_iff s t .classifier ClassifierSettings.ofSection_eq_some_iff rfl
    have htimeouts := sectionOr_eq_some_iff s t .timeouts TimeoutSettings.ofSection_eq_some_iff rfl
    have hbuffers := sectionOr_eq_some_iff s t .buffers BufferSettings.ofSection_eq_some_iff rfl
    have hobservability :=
      sectionOr_eq_some_iff s t .observability ObservabilitySettings.ofSection_eq_some_iff rfl
    rw [Section.forall_iff, ← hlistener, ← hbackends, ← hclassifier, ← htimeouts, ← hbuffers,
      ← hobservability]
    obtain ⟨_, _, _, _, _, _⟩ := s
    simp [Settings.ofTable, Option.bind_eq_some_iff, Section.key]
  rw [hsections, forall_and]
  refine and_congr_right fun _ => ⟨fun h k => h _ k (Section.mem_settings k), fun h _ k _ => h k⟩

/-! ## 3. Documents with the same content -/

/-- Two documents say the same about each setting. -/
structure Agree (t t' : Entries) : Prop where
  sectioned : ∀ sec, t'.Sectioned sec ↔ t.Sectioned sec
  given : ∀ k, t'.given k = t.given k

theorem Agree.ofTable_eq (h : Agree t t') : Settings.ofTable t' = Settings.ofTable t := by
  refine Option.ext fun s => ?_
  rw [Settings.ofTable_eq_some_iff, Settings.ofTable_eq_some_iff]
  exact and_congr (forall_congr' h.sectioned) (forall_congr' fun k => by rw [h.given])

theorem Toml.Entries.given_congr {k : Setting}
    (h : t'.get? k.parent.key = t.get? k.parent.key) : t'.given k = t.given k := by
  unfold given
  rw [h]

theorem sectioned_of_get? {sec : Section} (h : t.get? sec.key = some v)
    (hsection : isSection v = true) : t.Sectioned sec := by
  intro v' h'
  rw [h, Option.some.injEq] at h'
  exact h' ▸ hsection

/-- A document in which one section is written another way, but says the same about its settings. -/
theorem agree_of_section (sec : Section)
    (hothers : ∀ key, key ≠ sec.key → t'.get? key = t.get? key) (hold : t.Sectioned sec)
    (hget : t'.get? sec.key = some v) (hsection : isSection v = true)
    (hgiven : ∀ k ∈ sec.settings, t.given k = sectionField v k.key k.place) : Agree t t' := by
  constructor
  · intro sec'
    by_cases h : sec' = sec
    · subst h
      exact iff_of_true (sectioned_of_get? hget hsection) hold
    · unfold Toml.Entries.Sectioned
      rw [hothers _ (Section.key_injective.ne h)]
  · intro k
    by_cases h : k.parent = sec
    · subst h
      rw [given_of_get? hget, hgiven k (Section.mem_settings k)]
    · exact Toml.Entries.given_congr (hothers _ (Section.key_injective.ne h))

/-- **A table amended** where nothing is known of it: its entries are reordered, or one is added with
a key that is not known. -/
inductive Amended (known : String → Prop) : Entries → Entries → Prop where
  | reordered {t t' : Entries} (hkeys : t.keys.Nodup) (h : t.Perm t') : Amended known t t'
  | added {front back : Entries} {key : String} (value : Value) (h : ¬ known key) :
      Amended known (front ++ back) (front ++ (key, value) :: back)

theorem Amended.get?_eq {known : String → Prop} (h : Amended known t t') {key : String}
    (hkey : known key) : t'.get? key = t.get? key := by
  cases h with
  | reordered hkeys h => exact Entries.get?_perm hkeys h key
  | @added _ _ other _ h =>
    have hne : key ≠ other := fun heq => h (heq ▸ hkey)
    rw [Entries.get?_append, Entries.get?_append, Entries.get?_cons_ne hne]

/-- **An edit of a document** that touches nothing a setting is read from: an entry of no section, or
of no setting within a section; a section that is not there opened without entries; elements of an
array behind the places of its settings. How a table is written does not matter either. -/
inductive Edit : Entries → Entries → Prop where
  | outside {t t' : Entries} (h : Amended (fun key => ∃ sec : Section, sec.key = key) t t') :
      Edit t t'
  | inside {t : Entries} (sec : Section) {origin origin' : Origin} {inner inner' : Entries}
      (hget : t.get? sec.key = some (.table origin inner))
      (h : Amended (fun key => ∃ k ∈ sec.settings, k.key = key) inner inner') :
      Edit t (t.replace sec.key (.table origin' inner'))
  | opened {t : Entries} (sec : Section) {origin : Origin} (hget : t.get? sec.key = none) :
      Edit t (t.add sec.key (.table origin []))
  | behind {t : Entries} (sec : Section) {elements extra extra' : List Value}
      (hget : t.get? sec.key = some (.array (elements ++ extra)))
      (hlen : sec.settings.length ≤ elements.length) :
      Edit t (t.replace sec.key (.array (elements ++ extra')))

/-- **An edit changes nothing that is read.** -/
theorem Edit.agree (h : Edit t t') : Agree t t' := by
  cases h with
  | outside h =>
    have hget (sec : Section) : t'.get? sec.key = t.get? sec.key := h.get?_eq ⟨sec, rfl⟩
    exact ⟨fun sec => by unfold Toml.Entries.Sectioned; rw [hget sec],
      fun k => Toml.Entries.given_congr (hget k.parent)⟩
  | inside sec hget h =>
    refine agree_of_section sec (fun key hne => Entries.get?_replace_ne hne _ t)
      (sectioned_of_get? hget rfl) (Entries.get?_replace_self hget _) rfl fun k hk => ?_
    obtain rfl := sec.parent_of_mem_settings k hk
    rw [given_of_get? hget]
    exact (h.get?_eq ⟨k, hk, rfl⟩).symm
  | opened sec hget =>
    have hnone : t.Sectioned sec := fun v hv =>
      absurd (hget.symm.trans hv) (Option.some_ne_none v).symm
    refine agree_of_section sec (fun key hne => Entries.get?_add_ne hne _ t) hnone
      (Entries.get?_add_self hget _) rfl fun k hk => ?_
    obtain rfl := sec.parent_of_mem_settings k hk
    unfold Toml.Entries.given
    rw [hget]
    rfl
  | behind sec hget hlen =>
    refine agree_of_section sec (fun key hne => Entries.get?_replace_ne hne _ t)
      (sectioned_of_get? hget rfl) (Entries.get?_replace_self hget _) rfl fun k hk => ?_
    obtain rfl := sec.parent_of_mem_settings k hk
    have hplace : k.place < k.parent.settings.length :=
      (List.getElem?_eq_some_iff.mp (Section.getElem?_settings_place k)).1
    rw [given_of_get? hget]
    show (_ ++ _)[k.place]? = (_ ++ _)[k.place]?
    rw [List.getElem?_append_left (by omega), List.getElem?_append_left (by omega)]

/-- **The same content**: documents that edits lead between. -/
def SameContent : Entries → Entries → Prop := Relation.EqvGen Edit

theorem SameContent.ofTable_eq (h : SameContent t t') :
    Settings.ofTable t' = Settings.ofTable t := by
  induction h with
  | rel _ _ h => exact h.agree.ofTable_eq
  | refl _ => rfl
  | symm _ _ _ ih => exact ih.symm
  | trans _ _ _ _ _ ih ih' => exact ih'.trans ih

/-! ## 4. A key removed -/

namespace Toml.Entries

/-- Whether a document has the key of a setting. -/
def has (t : Entries) (k : Setting) : Bool :=
  match t.get? k.parent.key with
  | some (.table _ inner) => (get? k.key inner).isSome
  | _ => false

/-- A document without the key of a setting. -/
def without (t : Entries) (k : Setting) : Entries :=
  match t.get? k.parent.key with
  | some (.table origin inner) => t.replace k.parent.key (.table origin (erase k.key inner))
  | _ => t

theorem given_without_self {k : Setting} (h : t.has k = true) : (t.without k).given k = none := by
  unfold has at h
  unfold without
  split at h
  · next origin inner hget =>
    rw [given_of_get? (get?_replace_self hget _)]
    exact get?_erase_self k.key inner
  · cases h

/-- **What a document says about the other settings stays.** -/
theorem given_without_ne {j k : Setting} (h : j ≠ k) : (t.without k).given j = t.given j := by
  unfold without
  split
  · next origin inner hget =>
    by_cases hparent : j.parent = k.parent
    · rw [← hparent] at hget ⊢
      rw [given_of_get? (get?_replace_self hget _), given_of_get? hget]
      exact get?_erase_ne (fun hkey => h (Setting.eq_of_key hparent hkey)) inner
    · exact given_congr (get?_replace_ne (Section.key_injective.ne hparent) _ t)
  · rfl

end Toml.Entries

/-- **Without its key a setting is what the schema says**, and every other one is as it was. -/
theorem Settings.get_of_without {k : Setting} (hhas : t.has k = true)
    (h : Settings.ofTable t = some s) (h' : Settings.ofTable (t.without k) = some s') :
    s'.get k = k.unset ∧ ∀ j, j ≠ k → s'.get j = s.get j := by
  have hread := (Settings.ofTable_eq_some_iff.mp h).2
  have hread' := (Settings.ofTable_eq_some_iff.mp h').2
  constructor
  · have hself := hread' k
    rw [Entries.given_without_self hhas] at hself
    exact (Option.some.inj hself).symm
  · intro j hj
    have hother := hread' j
    rw [Entries.given_without_ne hj, hread j] at hother
    exact (Option.some.inj hother).symm

end TrafficRouter
