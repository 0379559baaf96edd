import Mathlib
import TrafficRouter.Proofs.Settings.Overrides
import TrafficRouter.Proofs.Settings.Reading
import TrafficRouter.Proofs.Text.Utf8

/-!
# Flags over file over schema

The settings of a call, setting by setting: what its flags make of what its document says, or of what
the schema says where the document says nothing.

* `CommandLine.Reads`: the table of a call's document;
* `resolve_eq_ok_iff`: the settings that it leads to;
* `flags_over_file_over_schema`: what each of them comes from, and what does not matter;
* `said_without_key`: an array says something about a setting whose key is not there.

NOT here: which settings make sense (`Rules`), and the parts of an address (`Overrides`).
-/

namespace TrafficRouter

open Toml (Entries)

/-- Settings that are checked are valid, and stay what they are. -/
theorem Settings.check_eq_ok_iff {s s' : Settings} :
    s.check = .ok s' ↔ s = s' ∧ s'.validate = .ok s' := by
  unfold Settings.check
  rcases validate_cases s with ⟨-, hvalid⟩ | ⟨-, hinvalid⟩
  · rw [hvalid, Except.ok.injEq]
    exact ⟨fun heq => ⟨heq, heq ▸ hvalid⟩, And.left⟩
  · rw [hinvalid]
    refine iff_of_false nofun fun ⟨heq, hvalid⟩ => ?_
    rw [← heq, hinvalid] at hvalid
    cases hvalid

namespace CommandLine

variable {c c' : CommandLine} {files : String → FileEntry} {t : Entries} {s s' : Settings}

/-- **What a call reads**: the table of the document in its file, and one without entries where it
names no file. -/
inductive Reads (c : CommandLine) (files : String → FileEntry) : Entries → Prop where
  | nothing (hconfig : c.config = none) : c.Reads files []
  | document {path : String} {bytes : Bytes} {text : List Char} {t : Entries}
      (hconfig : c.config = some path) (hfile : files path = .file bytes)
      (htext : Utf8.decode bytes = some text) (hparse : Toml.parse? text = some t) :
      c.Reads files t

/-- A document has each key once. -/
theorem Reads.keysOnce (h : c.Reads files t) : t.KeysOnce := by
  cases h with
  | nothing => exact Entries.keysOnce_nil
  | document _ _ _ hparse => exact Toml.keysOnce_of_parse? hparse

/-- **The settings of a call** are those of its document under its flags, if they make sense. -/
theorem resolve_eq_ok_iff (h : c.Reads files t) :
    c.resolve files = .ok s ↔
      ∃ base, Settings.ofTable t = some base ∧ c.overlay base = s ∧ s.validate = .ok s := by
  unfold resolve
  cases h with
  | nothing hconfig =>
    rw [hconfig]
    have hempty : Settings.ofTable [] = some {} := rfl
    simp only [hempty, Option.some.injEq, exists_eq_left']
    exact Settings.check_eq_ok_iff
  | document hconfig hfile htext hparse =>
    rw [hconfig]
    simp only [hfile, Settings.read, htext, Settings.ofDocument, hparse, Option.bind_some]
    cases Settings.ofTable t with
    | none => exact iff_of_false nofun fun ⟨_, h, _⟩ => nomatch h
    | some base =>
      simp only [Option.some.injEq, exists_eq_left']
      exact Settings.check_eq_ok_iff

/-- **Flags over file over schema, setting by setting.** A setting that no flag is for is what the
document says about it, or what the schema says where the document says nothing. A port that is
given is the one to listen at, on all interfaces, and of the address of a service the flags replace
the parts that they name; a flag changes no setting but its own. Keys and sections that are not known
can come and go anywhere, and all can be in any order, each being there once. Without the key of a
setting only that setting is another one: what the flags make of its value in the schema. -/
theorem flags_over_file_over_schema (hreads : c.Reads files t) (hok : c.resolve files = .ok s) :
    (∀ k, c.flagsFor k = {} → t.Below k (s.get k)) ∧
      (∀ port, c.proxyPort = some port → s.listener.bindAddress = "0.0.0.0:" ++ toString port) ∧
      (∀ backend, ∃ address, t.Below (.service backend) (.text address) ∧
        let f := c.addressFlags backend
        (f.host.isSome ∨ f.port.isSome →
          s.backends.address backend =
            f.host.getD (HostPort.hostOf address) ++ ":" ++
              (f.port.map toString).getD (HostPort.portOf address)) ∧
        (f = {} → s.backends.address backend = address)) ∧
      (∀ (c' : CommandLine) files' (s' : Settings), c'.Reads files' t → c'.resolve files' = .ok s' →
        ∀ k, c'.flagsFor k = c.flagsFor k → s'.get k = s.get k) ∧
      t.KeysOnce ∧
      (∀ files' t', c.Reads files' t' → SameContent t t' → c.resolve files' = .ok s) ∧
      ∀ k files' t' (s' : Settings), t.has k = true → c.Reads files' t' →
        SameContent (t.without k) t' → c.resolve files' = .ok s' →
        s'.get k = (c.overlay {}).get k ∧ ∀ j, j ≠ k → s'.get j = s.get j := by
  obtain ⟨base, hbase, rfl, hvalid⟩ := (resolve_eq_ok_iff hreads).mp hok
  have hread := (Settings.ofTable_eq_some_iff.mp hbase).2
  refine ⟨fun k hk => ?_, fun port hport => ?_,
    fun backend => ⟨base.backends.address backend, ?_, ?_⟩, ?_, hreads.keysOnce, ?_, ?_⟩
  · rw [get_overlay hk]
    exact read_given_eq_some_iff.mp (hread k)
  · show c.bindAddress base.listener.bindAddress = "0.0.0.0:" ++ toString port
    unfold bindAddress
    rw [hport]
  · exact read_given_eq_some_iff.mp (hread (.service backend))
  · rw [address_overlay]
    exact ⟨fun h => HostPort.override_eq _ h, fun h => by rw [h]; rfl⟩
  · intro c' files' s' hreads' hok' k hflags
    obtain ⟨base', hbase', rfl, -⟩ := (resolve_eq_ok_iff hreads').mp hok'
    obtain rfl := Option.some.inj (hbase'.symm.trans hbase)
    exact get_overlay_congr hflags rfl
  · intro files' t' hreads' hsame
    exact (resolve_eq_ok_iff hreads').mpr ⟨base, hsame.ofTable_eq.trans hbase, rfl, hvalid⟩
  · intro k files' t' s' hhas hreads' hsame hok'
    obtain ⟨base', hbase', rfl, -⟩ := (resolve_eq_ok_iff hreads').mp hok'
    obtain ⟨hself, hothers⟩ :=
      Settings.get_of_without hhas hbase (hsame.ofTable_eq.symm.trans hbase')
    exact ⟨get_overlay_congr rfl hself, fun j hj => get_overlay_congr rfl (hothers j hj)⟩

/-- A document, and the same with a key that is not known before its section. -/
def oneSection : List Char := "[listener]\nmax_connections = 5\n".toList

def unknownKey : List Char := "title = 'x'\n[listener]\nmax_connections = 5\n".toList

theorem flags_over_file_over_schema_oneSection :
    let c : CommandLine :=
      { config := some "router.toml", proxyPort := some 7000, game := { host := some "10.0.0.5" } }
    ∃ t s, c.Reads (fun _ => .file (Utf8.encode oneSection)) t ∧
      c.resolve (fun _ => .file (Utf8.encode oneSection)) = .ok s ∧
      s.listener.bindAddress = "0.0.0.0:7000" ∧ t.Below .maxConnections (s.get .maxConnections) ∧
      c.resolve (fun _ => .file (Utf8.encode unknownKey)) = .ok s := by
  intro c
  let t : Entries := [("listener", .table .header [("max_connections", .integer 5)])]
  let base : Settings := { listener := { maxConnections := 5 } }
  have hreads : c.Reads (fun _ => .file (Utf8.encode oneSection)) t :=
    .document rfl rfl (Utf8.decode_eq_some_iff.mpr rfl) (by cbv)
  have hok : c.resolve (fun _ => .file (Utf8.encode oneSection)) = .ok (c.overlay base) :=
    (resolve_eq_ok_iff hreads).mpr
      ⟨base, rfl, rfl, Settings.validate_of_isEmpty (by decide +kernel)⟩
  have hreads' : c.Reads (fun _ => .file (Utf8.encode unknownKey)) (("title", .string "x") :: t) :=
    .document rfl rfl (Utf8.decode_eq_some_iff.mpr rfl) (by cbv)
  have hunknown : ¬ ∃ sec : Section, sec.key = "title" := by
    rintro ⟨sec, hsec⟩
    cases sec <;> exact absurd hsec (by decide)
  have hadded : Amended (fun key => ∃ sec : Section, sec.key = key) ([] ++ t)
      ([] ++ ("title", .string "x") :: t) := .added _ hunknown
  have hsame : SameContent t (("title", .string "x") :: t) := .rel _ _ (.outside hadded)
  obtain ⟨hbelow, hport, -, -, -, hsettings, -⟩ := flags_over_file_over_schema hreads hok
  exact ⟨t, c.overlay base, hreads, hok, hport 7000 rfl, hbelow .maxConnections rfl,
    hsettings _ _ hreads' hsame⟩

/-- A document that has a section as an array. -/
def sectionAsArray : List Char := "listener = ['1.2.3.4:5']".toList

/-- **A value without a key.** No flag is for the address to listen at, and its key is not in the
document, but it is not the one of the schema: the section is an array, and has it at its place. -/
theorem said_without_key :
    let c : CommandLine := { config := some "router.toml" }
    ∃ t s, c.Reads (fun _ => .file (Utf8.encode sectionAsArray)) t ∧
      c.resolve (fun _ => .file (Utf8.encode sectionAsArray)) = .ok s ∧
      c.flagsFor .bindAddress = {} ∧ t.has .bindAddress = false ∧
      s.get .bindAddress = .text "1.2.3.4:5" ∧ s.get .bindAddress ≠ Setting.bindAddress.unset := by
  intro c
  let t : Entries := [("listener", .array [.string "1.2.3.4:5"])]
  let s : Settings := { listener := { bindAddress := "1.2.3.4:5" } }
  have hreads : c.Reads (fun _ => .file (Utf8.encode sectionAsArray)) t :=
    .document rfl rfl (Utf8.decode_eq_some_iff.mpr rfl) (by cbv)
  exact ⟨t, s, hreads, (resolve_eq_ok_iff hreads).mpr
    ⟨s, rfl, rfl, Settings.validate_of_isEmpty (by decide +kernel)⟩, rfl, rfl, rfl, by decide⟩

end CommandLine

end TrafficRouter
