import PortRelease.Proofs.Settings.Reading
import PortRelease.Proofs.Settings.Saving
/-!
# What is saved is loaded

The text of a settings file spells the settings (`read?_fileText`), so valid settings are parsed from it, whatever
characters the host has. And a save that succeeds leaves the file where its path leads, on any disk: the directories it
made and the draft it moved do not lead the path elsewhere (`Saving.find_of_run`).
-/

namespace PortRelease

namespace Settings

variable {settings : Settings} {path : Path} {disk after : Disk}

/-! ## The text -/

theorem spelled_toJson (settings : Settings) : Json.Spelled (.value settings.toJson) settings.fileText := by
  refine Json.spelled_object ?_
  simp only [List.map_cons, List.map_nil, List.forall_mem_cons]
  refine ⟨?_, ?_, ?_, ?_, ?_, nofun⟩
  · exact Json.spelled_ofNat settings.pollInterval.toNat
  · exact Json.spelled_ofNat settings.timeout.toNat
  · exact Json.spelled_ofNat settings.longTimeout.toNat
  · exact Json.spelled_ofNat settings.connectTimeout.toNat
  · exact Json.spelled_string (some settings.host.toList)

theorem read?_fileText (settings : Settings) : Json.read? settings.fileText = some settings.toJson := by
  have read := Json.read?_of_spelled Json.space_nil settings.spelled_toJson Json.space_nil
  rwa [List.append_nil] at read

/-- **The text of a settings file is parsed as the settings**, if they are valid. -/
theorem parseValid_fileText (valid : settings.Valid) : parseValid settings.fileText = .ok settings := by
  have read : (Json.read? settings.fileText).bind ofJson? = some settings := by
    rw [read?_fileText, Option.bind_some, ofJson?_toJson]
  unfold Valid at valid
  rw [parseValid_of_read read, valid]

/-! ## The file -/

theorem load_of_find {place : Place} (valid : settings.Valid)
    (found : disk.find path = .ok (place, .file settings.fileContent)) : load path disk = .ok settings := by
  rw [load_of_holds ⟨place, found⟩, parseValid_fileText valid]

end Settings

/-- **A save that succeeds leaves the file where its path leads.** -/
theorem Saving.find_of_run {saving : Saving} {initial after : Disk} (run : saving.run initial = (.ok (), after)) :
    ∃ place, after.find saving.path = .ok (place, .file saving.content) := by
  cases progress_of_run run with
  | @replaced made place target ready sound accepts =>
    have draft := ready.accepts_drafted saving.content
    have grown := Disk.grown_moveFile draft.no_directory accepts.no_directory saving.content
    exact ⟨target, accepts.find_of_grown grown (Disk.entryAt?_moveFile_self accepts.ne_nil ..)⟩

/-- **Settings that were saved are loaded again**, from whatever disk they were saved on and whatever the path. -/
theorem Settings.load_of_saved {settings : Settings} {path : Path} {disk : Disk} (valid : settings.Valid)
    (saved : (settings.save path disk).1 = .ok ()) : load path (settings.save path disk).2 = .ok settings := by
  rw [save_of_valid valid] at saved ⊢
  obtain ⟨place, found⟩ := Saving.find_of_run (Prod.ext saved rfl)
  exact load_of_find valid found

/-- A host with a quote, a backslash, a control character and a character of four octets, saved in a directory that is
not there yet. -/
theorem Settings.loaded_from_new_directory :
    let settings : Settings := ⟨1, 0, 18446744073709551615, 7, "a\"\\\x01😀"⟩
    let path : Path := "d/c.json".toList
    settings.Valid ∧ (settings.save path (.empty [])).1 = .ok () ∧
      load path (settings.save path (.empty [])).2 = .ok settings := by
  intro settings path
  have valid : settings.Valid := by decide
  have saved : (settings.save path (.empty [])).1 = .ok () := by decide +kernel
  exact ⟨valid, saved, load_of_saved valid saved⟩

end PortRelease
